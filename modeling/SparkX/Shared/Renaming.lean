import Mathlib

set_option autoImplicit false

namespace Renaming

variable {N : Type} [DecidableEq N] (rename : N → N)

def add (taken : List N) (name : N) : List N :=
  taken ++ [if name ∈ taken then rename name else name]

def addAll (taken names : List N) : List N := names.foldl (add rename) taken

-- The names that are renamed: those taken from the start, and those that an earlier name got.
inductive Renamed (taken names : List N) : N → Prop where
  | taken {name : N} (member : name ∈ names) (present : name ∈ taken) : Renamed taken names name
  | later {name : N} (renamed : Renamed taken names name)
    (after : [name, rename name].Sublist names) : Renamed taken names (rename name)

def Clashes (taken names : List N) : Prop :=
  ∃ name, Renamed rename taken names name ∧ (rename name ∈ taken ∨ [rename name, name].Sublist names)

section

variable {rename} {taken names : List N} {name other : N}

omit [DecidableEq N] in
theorem Renamed.mem (renamed : Renamed rename taken names name) : name ∈ names := by
  cases renamed with
  | taken member => exact member
  | later _ after => exact after.subset (by simp)

omit [DecidableEq N] in
theorem sublist_concat (fresh : name ∉ names) {first second : N} :
    [first, second].Sublist (names ++ [name]) ↔
      [first, second].Sublist names ∨ first ∈ names ∧ second = name := by
  constructor
  · intro within
    obtain ⟨before, after, split, kept, last⟩ := List.sublist_append_iff.mp within
    rcases List.sublist_singleton.mp last with rfl | rfl
    · rw [List.append_nil] at split
      exact .inl (split ▸ kept)
    · have pair : before = [first] ∧ second = name := by
        have reversed := congrArg List.reverse split
        simp only [List.reverse_cons, List.reverse_nil, List.nil_append, List.reverse_append,
          List.cons_append, List.cons.injEq] at reversed
        refine ⟨?_, reversed.1⟩
        rw [← List.reverse_inj, ← reversed.2]
        rfl
      obtain ⟨rfl, rfl⟩ := pair
      exact .inr ⟨List.singleton_sublist.mp kept, rfl⟩
  · rintro (within | ⟨member, rfl⟩)
    · exact within.trans (List.sublist_append_left _ _)
    · exact (List.singleton_sublist.mpr member).append (List.Sublist.refl [second])

omit [DecidableEq N] in
theorem Renamed.concat (renamed : Renamed rename taken names other) :
    Renamed rename taken (names ++ [name]) other := by
  induction renamed with
  | taken member present => exact .taken (List.mem_append_left _ member) present
  | later _ after ih => exact .later ih (after.trans (List.sublist_append_left _ _))

omit [DecidableEq N] in
theorem renamed_concat (fresh : name ∉ names) :
    Renamed rename taken (names ++ [name]) other ↔ Renamed rename taken names other ∨
      other = name ∧ (name ∈ taken ∨ ∃ earlier, Renamed rename taken names earlier ∧ rename earlier = name) := by
  constructor
  · intro renamed
    induction renamed with
    | @taken other member present =>
      rcases List.mem_append.mp member with member | member
      · exact .inl (.taken member present)
      · obtain rfl := List.mem_singleton.mp member
        exact .inr ⟨rfl, .inl present⟩
    | @later earlier renamed after ih =>
      rcases (sublist_concat fresh).mp after with within | ⟨member, rfl⟩
      · have before : earlier ∈ names := within.subset (by simp)
        rcases ih with known | ⟨rfl, _⟩
        · exact .inl (.later known within)
        · exact absurd before fresh
      · rcases ih with known | ⟨same, _⟩
        · exact .inr ⟨rfl, .inr ⟨earlier, known, rfl⟩⟩
        · exact absurd (same ▸ member) fresh
  · rintro (renamed | ⟨rfl, present | ⟨earlier, renamed, rfl⟩⟩)
    · exact renamed.concat
    · exact .taken (by simp) present
    · exact .later renamed.concat ((sublist_concat fresh).mpr (.inr ⟨renamed.mem, rfl⟩))

omit [DecidableEq N] in
theorem nodup_concat : (names ++ [name]).Nodup ↔ names.Nodup ∧ name ∉ names := by
  rw [← List.concat_eq_append, List.nodup_concat, and_comm]

theorem addAll_concat :
    addAll rename taken (names ++ [name]) = add rename (addAll rename taken names) name := by
  simp [addAll]

theorem mem_addAll (distinct : names.Nodup) : other ∈ addAll rename taken names ↔ other ∈ taken ∨
      (other ∈ names ∧ ¬Renamed rename taken names other) ∨
      ∃ earlier, Renamed rename taken names earlier ∧ rename earlier = other := by
  induction names using List.reverseRecOn generalizing other with
  | nil =>
    have none : ∀ name, ¬Renamed rename taken [] name := fun name renamed => nomatch renamed.mem
    simp [addAll, none]
  | append_singleton names name ih =>
    obtain ⟨distinct, fresh⟩ := nodup_concat.mp distinct
    have ih {other : N} := @ih other distinct
    have stands : name ∈ addAll rename taken names ↔
        name ∈ taken ∨ ∃ earlier, Renamed rename taken names earlier ∧ rename earlier = name := by
      rw [ih]
      simp [fresh]
    rw [addAll_concat, add, List.mem_append, ih, List.mem_singleton]
    simp only [renamed_concat fresh, ← stands, List.mem_append, List.mem_singleton]
    have apart (renamed : Renamed rename taken names name) : False := fresh renamed.mem
    by_cases there : name ∈ addAll rename taken names
    next =>
      rw [if_pos there]
      grind
    next =>
      rw [if_neg there]
      grind

theorem mem_addAll_fresh (distinct : names.Nodup) (fresh : name ∉ names) :
    name ∈ addAll rename taken names ↔
      name ∈ taken ∨ ∃ earlier, Renamed rename taken names earlier ∧ rename earlier = name := by
  rw [mem_addAll distinct]
  simp [fresh]

omit [DecidableEq N] in
theorem clashes_concat (fresh : name ∉ names) :
    Clashes rename taken (names ++ [name]) ↔ Clashes rename taken names ∨
      (name ∈ taken ∨ ∃ earlier, Renamed rename taken names earlier ∧ rename earlier = name) ∧
        (rename name ∈ taken ∨ rename name ∈ names) := by
  unfold Clashes
  constructor
  · rintro ⟨other, renamed, found⟩
    rcases (renamed_concat fresh).mp renamed with renamed | ⟨rfl, reason⟩
    · have different : other ≠ name := fun same => fresh (same ▸ renamed.mem)
      rw [sublist_concat fresh] at found
      exact .inl ⟨other, renamed, found.imp_right fun within => within.resolve_right fun last => different last.2⟩
    · refine .inr ⟨reason, found.imp_right fun within => ?_⟩
      rcases (sublist_concat fresh).mp within with within | ⟨member, _⟩
      · exact absurd (within.subset (by simp)) fresh
      · exact member
  · rintro (⟨other, renamed, found⟩ | ⟨reason, found⟩)
    · exact ⟨other, renamed.concat, found.imp_right fun within =>
        within.trans (List.sublist_append_left _ _)⟩
    · exact ⟨name, (renamed_concat fresh).mpr (.inr ⟨rfl, reason⟩), found.imp_right fun member =>
        (sublist_concat fresh).mpr (.inr ⟨member, rfl⟩)⟩

-- The induction is on the names in the order in which they are added. A renamed name can only meet
-- a name that was there from the start or one that was added before it under its own name.
theorem nodup_addAll (injective : Function.Injective rename) (apart : taken.Nodup)
    (distinct : names.Nodup) :
    (addAll rename taken names).Nodup ↔ ¬Clashes rename taken names := by
  induction names using List.reverseRecOn with
  | nil =>
    have none : ¬Clashes rename taken [] := fun ⟨name, renamed, _⟩ => nomatch renamed.mem
    simpa [addAll, none] using apart
  | append_singleton names name ih =>
    obtain ⟨distinct, fresh⟩ := nodup_concat.mp distinct
    have stands := @mem_addAll_fresh _ _ rename taken names name distinct fresh
    rw [addAll_concat, add, nodup_concat, ih distinct, clashes_concat fresh, ← stands, not_or]
    refine and_congr_right fun _ => ?_
    by_cases there : name ∈ addAll rename taken names
    next =>
      -- The new name is not the new name of another, and no later name of this one is there yet.
      have other (earlier : N) (renamed : Renamed rename taken names earlier) :
          rename earlier ≠ rename name := by
        intro same
        exact fresh (injective same ▸ renamed.mem)
      have stays : Renamed rename taken names (rename name) → rename name ∈ taken := by
        intro renamed
        generalize same : rename name = new at renamed
        cases renamed with
        | taken _ present => exact present
        | later renamed _ => exact absurd same.symm (other _ renamed)
      rw [if_pos there, mem_addAll distinct]
      grind
    next =>
      rw [if_neg there]
      simp [there]

end

end Renaming
