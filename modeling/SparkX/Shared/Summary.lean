import SparkX.Shared.Grouping

set_option autoImplicit false

structure Aggregator (σ ι ε ο : Type) where
  fresh : σ
  step : σ → ι → Except ε σ
  finish : σ → ο

namespace Aggregator

variable {σ ι ε ο : Type}

def result (aggregator : Aggregator σ ι ε ο) (items : List ι) : Except ε ο :=
  aggregator.finish <$> items.foldlM aggregator.step aggregator.fresh

def comap {ν : Type} (read : ι → Except ε ν) (aggregator : Aggregator σ ν ε ο) : Aggregator σ ι ε ο where
  fresh := aggregator.fresh
  step state item := do aggregator.step state (← read item)
  finish := aggregator.finish

theorem comap_result {ν : Type} {read : ι → Except ε ν} {aggregator : Aggregator σ ν ε ο} {items : List ι}
    {found : ο} (computed : (aggregator.comap read).result items = .ok found) :
    ∃ values, items.mapM read = .ok values ∧ aggregator.result values = .ok found := by
  obtain ⟨final, ran, rfl⟩ := Except.map_eq_ok.mp computed
  have general (start : σ) (folded : items.foldlM (aggregator.comap read).step start = .ok final) :
      ∃ values, items.mapM read = .ok values ∧ values.foldlM aggregator.step start = .ok final := by
    clear computed ran
    induction items generalizing start with
    | nil => exact ⟨[], rfl, folded⟩
    | cons item rest ih =>
      obtain ⟨next, stepped, folded⟩ := Except.bind_ok.mp folded
      obtain ⟨value, here, stepped⟩ := Except.bind_ok.mp stepped
      obtain ⟨values, others, done⟩ := ih next folded
      refine ⟨value :: values, ?_, Except.bind_ok.mpr ⟨next, stepped, done⟩⟩
      rw [Rowwise.mapM_ok] at others ⊢
      exact .cons here others
  obtain ⟨values, here, done⟩ := general _ ran
  exact ⟨values, here, Except.map_eq_ok.mpr ⟨final, done, rfl⟩⟩

section

variable {J : Type} (aggregators : J → Aggregator σ ι ε ο)

def stepAll (indices : List J) (states : List σ) (item : ι) : Except ε (List σ) :=
  (indices.zip states).mapM fun entry => (aggregators entry.1).step entry.2 item

theorem foldlM_stepAll_ok {indices : List J} {items : List ι} {starts finals : List σ}
    (equal : starts.length = indices.length) :
    items.foldlM (stepAll aggregators indices) starts = .ok finals ↔
      List.Forall₂ (fun entry final => items.foldlM (aggregators entry.1).step entry.2 = .ok final)
        (indices.zip starts) finals := by
  induction items generalizing starts with
  | nil =>
    simp only [List.foldlM_nil, Except.pure_eq_ok, Rowwise.forall₂_eq]
    rw [← List.unzip_snd, List.unzip_zip_right (by omega)]
    exact eq_comm
  | cons item rest ih =>
    simp only [List.foldlM_cons, Except.bind_ok]
    refine Iff.trans ?_ (@Rowwise.forall₂_zip_comp J σ σ σ
      (fun entry next => (aggregators entry.1).step entry.2 item = .ok next)
      (fun entry final => rest.foldlM (aggregators entry.1).step entry.2 = .ok final) _ _ _ equal).symm
    refine exists_congr fun nexts => ?_
    rw [stepAll, Rowwise.mapM_ok]
    refine and_congr_right fun stepped => ih ?_
    rw [← stepped.length_eq, List.length_zip, equal, Nat.min_self]

theorem foldlM_stepAll_result {finish : σ → ο} (uniform : ∀ index, (aggregators index).finish = finish)
    {indices : List J} {items : List ι} {found : List ο} :
    (·.map finish) <$> items.foldlM (stepAll aggregators indices)
        (indices.map fun index => (aggregators index).fresh) = .ok found ↔
      indices.mapM (fun index => (aggregators index).result items) = .ok found := by
  have paired : indices.zip (indices.map fun index => (aggregators index).fresh) =
      indices.map fun index => (index, (aggregators index).fresh) := by
    induction indices with
    | nil => rfl
    | cons index rest ih => rw [List.map_cons, List.zip_cons_cons, ih, List.map_cons]
  simp only [Except.map_eq_ok, Rowwise.mapM_ok, foldlM_stepAll_ok aggregators (List.length_map ..),
    paired, List.forall₂_map_left_iff, result, uniform, Rowwise.forall₂_map]

theorem foldlM_insert_result {κ : Type} [DecidableEq κ] {finish : σ → ο}
    (uniform : ∀ index, (aggregators index).finish = finish) {indices : List J} {initial : List κ}
    {rows : List (κ × ι)} {found : List (κ × List ο)} :
    (∃ groups, rows.foldlM (Grouping.insert (indices.map fun index => (aggregators index).fresh)
          (stepAll aggregators indices))
          (initial.map (·, indices.map fun index => (aggregators index).fresh)) = .ok groups ∧
        groups.map (fun entry => (entry.1, entry.2.map finish)) = found) ↔
      Grouping.results (fun items => indices.mapM fun index => (aggregators index).result items) initial
        rows = .ok found := by
  rw [Grouping.foldlM_insert_finish]
  exact Grouping.results_congr fun items result => foldlM_stepAll_result aggregators uniform

end

end Aggregator

-- `fits` is a bound on the sums beyond which the fold fails.
structure Summary {σ ι ε ο : Type} (aggregator : Aggregator σ ι ε ο) (admissible : ι → Prop)
    (M : Type) [AddCommMonoid M] where
  weight : ι → Option M
  fits : M → Prop
  represents : M → σ → Prop
  output : M → ο
  fits_zero : fits 0
  fits_left : ∀ {total added}, fits (total + added) → fits total
  represents_fresh : represents 0 aggregator.fresh
  finish_eq : ∀ {total state}, represents total state → aggregator.finish state = output total
  step_ok : ∀ {total state item next}, represents total state → admissible item →
    aggregator.step state item = .ok next →
      ∃ added, weight item = some added ∧ fits (total + added) ∧ represents (total + added) next
  step_total : ∀ {total state item added}, represents total state → admissible item →
    weight item = some added → fits (total + added) → ∃ next, aggregator.step state item = .ok next

namespace Summary

variable {σ ι ε ο M : Type} [AddCommMonoid M] {aggregator : Aggregator σ ι ε ο}
  {admissible : ι → Prop}

def Weighs (summary : Summary aggregator admissible M) (items : List ι) (total : M) : Prop :=
  ∃ weights, items.mapM summary.weight = some weights ∧ weights.sum = total

variable (summary : Summary aggregator admissible M)

def comap {κ : Type} (read : κ → Except ε ι) :
    Summary (aggregator.comap read) (fun item => ∀ value, read item = .ok value → admissible value) M where
  weight item := (read item).toOption.bind summary.weight
  fits := summary.fits
  represents := summary.represents
  output := summary.output
  fits_zero := summary.fits_zero
  fits_left := summary.fits_left
  represents_fresh := summary.represents_fresh
  finish_eq := summary.finish_eq
  step_ok represented allowed stepped := by
    obtain ⟨value, found, stepped⟩ := Except.bind_ok.mp stepped
    rw [found]
    exact summary.step_ok represented (allowed value found) stepped
  step_total {total state item added} represented allowed weighed fits := by
    obtain ⟨value, found, weighed⟩ := Option.bind_eq_some_iff.mp weighed
    have known : read item = .ok value := by
      cases here : read item with
      | error => rw [here] at found; cases found
      | ok => rw [here] at found; exact congrArg _ (Option.some.inj found)
    obtain ⟨next, stepped⟩ := summary.step_total represented (allowed value known) weighed fits
    exact ⟨next, Except.bind_ok.mpr ⟨value, known, stepped⟩⟩

def embed {τ ζ : Type} (wrap : σ → τ) {outer : Aggregator τ ι ζ ο}
    (fresh : outer.fresh = wrap aggregator.fresh)
    (finish : ∀ state, outer.finish (wrap state) = aggregator.finish state)
    (step : ∀ state item next, outer.step (wrap state) item = .ok next ↔
      ∃ inner, aggregator.step state item = .ok inner ∧ wrap inner = next) :
    Summary outer admissible M where
  weight := summary.weight
  fits := summary.fits
  represents total state := ∃ inner, summary.represents total inner ∧ wrap inner = state
  output := summary.output
  fits_zero := summary.fits_zero
  fits_left := summary.fits_left
  represents_fresh := ⟨_, summary.represents_fresh, fresh.symm⟩
  finish_eq represented := by
    obtain ⟨inner, represented, rfl⟩ := represented
    rw [finish, summary.finish_eq represented]
  step_ok represented allowed stepped := by
    obtain ⟨inner, represented, rfl⟩ := represented
    obtain ⟨next, within, rfl⟩ := (step inner _ _).mp stepped
    obtain ⟨added, weighed, fits, represented⟩ := summary.step_ok represented allowed within
    exact ⟨added, weighed, fits, next, represented, rfl⟩
  step_total represented allowed weighed fits := by
    obtain ⟨inner, represented, rfl⟩ := represented
    obtain ⟨next, stepped⟩ := summary.step_total represented allowed weighed fits
    exact ⟨_, (step inner _ _).mpr ⟨next, stepped, rfl⟩⟩

theorem comap_weight {κ : Type} {read : κ → Except ε ι} {item : κ} {value : ι}
    (found : read item = .ok value) : (summary.comap read).weight item = summary.weight value := by
  simp [comap, found, Except.toOption]

variable {total : M}

theorem weighs_nil : summary.Weighs [] total ↔ total = 0 := by
  simp [Weighs, eq_comm]

theorem weighs_cons {item : ι} {rest : List ι} :
    summary.Weighs (item :: rest) total ↔
      ∃ added others, summary.weight item = some added ∧ summary.Weighs rest others ∧
        added + others = total := by
  simp only [Weighs, Rowwise.mapM_some, List.forall₂_cons_left_iff]
  constructor
  · rintro ⟨_, ⟨added, weights, here, there, rfl⟩, rfl⟩
    exact ⟨added, weights.sum, here, ⟨weights, there, rfl⟩, List.sum_cons.symm⟩
  · rintro ⟨added, _, here, ⟨weights, there, rfl⟩, rfl⟩
    exact ⟨added :: weights, ⟨added, weights, here, there, rfl⟩, List.sum_cons⟩

theorem weighs_append {first second : List ι} :
    summary.Weighs (first ++ second) total ↔
      ∃ left right, summary.Weighs first left ∧ summary.Weighs second right ∧ left + right = total := by
  induction first generalizing total with
  | nil => simp [weighs_nil]
  | cons item rest ih =>
    rw [List.cons_append, weighs_cons]
    simp only [ih, weighs_cons]
    constructor
    · rintro ⟨added, _, here, ⟨left, right, earlier, later, rfl⟩, rfl⟩
      exact ⟨added + left, right, ⟨added, left, here, earlier, rfl⟩, later, add_assoc ..⟩
    · rintro ⟨_, right, ⟨added, left, here, earlier, rfl⟩, later, rfl⟩
      exact ⟨added, left + right, here, ⟨left, right, earlier, later, rfl⟩, (add_assoc ..).symm⟩

variable {columns : List (List ι)} {items : List ι}

theorem exists_weighs_part (weighs : summary.Weighs columns.flatten total) (inside : items ∈ columns) :
    ∃ part, summary.Weighs items part := by
  induction columns generalizing total with
  | nil => cases inside
  | cons column rest ih =>
    obtain ⟨left, right, here, there, _⟩ := summary.weighs_append.mp weighs
    rcases List.mem_cons.mp inside with rfl | later
    · exact ⟨left, here⟩
    · exact ih there later

theorem weighs_unique {first second : M} (one : summary.Weighs items first)
    (other : summary.Weighs items second) : first = second := by
  obtain ⟨weights, here, rfl⟩ := one
  obtain ⟨_, there, rfl⟩ := other
  rw [Option.some.inj (here.symm.trans there)]

theorem weighs_perm {first second : List ι} (same : first.Perm second) (weighs : summary.Weighs first total) :
    summary.Weighs second total := by
  induction same generalizing total with
  | nil => exact weighs
  | cons item _ ih =>
    obtain ⟨added, others, here, there, rfl⟩ := summary.weighs_cons.mp weighs
    exact summary.weighs_cons.mpr ⟨added, others, here, ih there, rfl⟩
  | swap one other rest =>
    obtain ⟨added, _, here, there, rfl⟩ := summary.weighs_cons.mp weighs
    obtain ⟨next, others, again, last, rfl⟩ := summary.weighs_cons.mp there
    exact summary.weighs_cons.mpr ⟨next, added + others, again,
      summary.weighs_cons.mpr ⟨added, others, here, last, rfl⟩, add_left_comm ..⟩
  | trans _ _ earlier later => exact later (earlier weighs)

theorem foldlM_ok (allowed : ∀ item ∈ items, admissible item) {state : σ}
    (represented : summary.represents total state) (fitting : summary.fits total) :
    (∀ final, items.foldlM aggregator.step state = .ok final → ∃ added, summary.Weighs items added ∧
        summary.fits (total + added) ∧ summary.represents (total + added) final) ∧
      ∀ added, summary.Weighs items added → summary.fits (total + added) →
        ∃ final, items.foldlM aggregator.step state = .ok final := by
  induction items generalizing total state with
  | nil =>
    refine ⟨fun final folded => ?_, fun added weighs _ => ⟨state, rfl⟩⟩
    obtain rfl := Except.pure_eq_ok.mp folded
    refine ⟨0, summary.weighs_nil.mpr rfl, ?_⟩
    rw [add_zero]
    exact ⟨fitting, represented⟩
  | cons item rest ih =>
    have ⟨here, later⟩ := List.forall_mem_cons.mp allowed
    simp only [List.foldlM_cons, Except.bind_ok, weighs_cons]
    constructor
    · rintro final ⟨next, stepped, folded⟩
      obtain ⟨added, weight, fits, represents⟩ := summary.step_ok represented here stepped
      obtain ⟨others, weighs, fits, represents⟩ := (ih later represents fits).1 final folded
      exact ⟨added + others, ⟨added, others, weight, weighs, rfl⟩, add_assoc total added others ▸ fits,
        add_assoc total added others ▸ represents⟩
    · rintro _ ⟨added, others, weight, weighs, rfl⟩ fits
      rw [← add_assoc] at fits
      obtain ⟨next, stepped⟩ := summary.step_total represented here weight (summary.fits_left fits)
      obtain ⟨again, same, fitsNext, represents⟩ := summary.step_ok represented here stepped
      obtain rfl := Option.some.inj (weight.symm.trans same)
      obtain ⟨final, folded⟩ := (ih later represents fitsNext).2 others weighs fits
      exact ⟨final, next, stepped, folded⟩

variable {result : ο}

theorem result_ok (allowed : ∀ item ∈ items, admissible item) : aggregator.result items = .ok result ↔
      ∃ total, summary.Weighs items total ∧ summary.fits total ∧ summary.output total = result := by
  have ⟨sound, complete⟩ := summary.foldlM_ok allowed summary.represents_fresh summary.fits_zero
  simp only [zero_add] at sound complete
  rw [Aggregator.result, Except.map_eq_ok]
  constructor
  · rintro ⟨final, folded, rfl⟩
    obtain ⟨total, weighs, fits, represents⟩ := sound final folded
    exact ⟨total, weighs, fits, (summary.finish_eq represents).symm⟩
  · rintro ⟨total, weighs, fits, rfl⟩
    obtain ⟨final, folded⟩ := complete total weighs fits
    obtain ⟨again, weighsAgain, _, represents⟩ := sound final folded
    rw [summary.weighs_unique weighs weighsAgain]
    exact ⟨final, folded, summary.finish_eq represents⟩

theorem exists_result_part (unbounded : ∀ total, summary.fits total)
    (allowed : ∀ item ∈ columns.flatten, admissible item)
    (computed : aggregator.result columns.flatten = .ok result) (inside : items ∈ columns) :
    ∃ part, aggregator.result items = .ok part := by
  obtain ⟨total, weighs, _⟩ := (summary.result_ok allowed).mp computed
  obtain ⟨part, here⟩ := summary.exists_weighs_part weighs inside
  exact ⟨_, (summary.result_ok fun item member => allowed item (List.mem_flatten.mpr ⟨items, inside, member⟩)).mpr
    ⟨part, here, unbounded part, rfl⟩⟩

theorem merges {τ ρ ζ : Type} {merger : Aggregator τ ρ ζ ο} {handed : ρ → Prop}
    (merge : Summary merger handed M)
    (agree : ∀ total, merge.fits total → merge.output total = summary.output total)
    (unbounded : ∀ total, summary.fits total) {parts arrived : List ρ}
    (allowed : ∀ item ∈ columns.flatten, admissible item) (fine : ∀ part ∈ parts, handed part)
    (room : ∀ total, summary.Weighs columns.flatten total → merge.fits total)
    (each : List.Forall₂ (fun column part => ∃ total, summary.Weighs column total ∧
      merge.weight part = some total) columns parts)
    (same : arrived.Perm parts) :
    ∃ result, aggregator.result columns.flatten = .ok result ∧ merger.result arrived = .ok result := by
  have weighed : ∃ total, summary.Weighs columns.flatten total ∧ merge.Weighs parts total := by
    clear allowed fine room same
    induction each with
    | nil => exact ⟨0, summary.weighs_nil.mpr rfl, merge.weighs_nil.mpr rfl⟩
    | cons here _ ih =>
      obtain ⟨added, weighs, handed⟩ := here
      obtain ⟨others, later, rest⟩ := ih
      exact ⟨added + others, summary.weighs_append.mpr ⟨added, others, weighs, later, rfl⟩,
        merge.weighs_cons.mpr ⟨added, others, handed, rest, rfl⟩⟩
  obtain ⟨total, weighs, handed⟩ := weighed
  have fits := room total weighs
  refine ⟨summary.output total, (summary.result_ok allowed).mpr ⟨total, weighs, unbounded total, rfl⟩, ?_⟩
  refine (merge.result_ok fun part member => fine part (same.mem_iff.mp member)).mpr ?_
  exact ⟨total, merge.weighs_perm same.symm handed, fits, agree total fits⟩

end Summary
