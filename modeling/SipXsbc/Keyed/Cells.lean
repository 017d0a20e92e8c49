import Mathlib.Data.List.Nodup
import Mathlib.Logic.Function.Basic

/-!
# One pass over a family of cells

A pass takes one step after another, each on the cell of its own item. When no two
items share a cell, a pass that returns is the steps taken each on its own
(`Passed`), so the order of the items does not show in what it leaves.
-/

namespace Keyed

variable {ι K C ε α : Type}

/-- A computation on the cell at `k`; the other cells are out of its reach. -/
def onCell [DecidableEq K] (k : K) (step : EStateM ε C α) : EStateM ε (K → C) α := fun cells =>
  match step (cells k) with
  | .ok a c => .ok a (Function.update cells k c)
  | .error e c => .error e (Function.update cells k c)

theorem onCell_ok_iff [DecidableEq K] {k : K} {step : EStateM ε C α} {cells cells' : K → C} {a : α} :
    onCell k step cells = .ok a cells' ↔
      ∃ c, step (cells k) = .ok a c ∧ cells' = Function.update cells k c := by
  unfold onCell
  cases step (cells k) with
  | ok b c =>
    simp only [EStateM.Result.ok.injEq]
    refine ⟨?_, ?_⟩
    · intro same
      rcases same with ⟨rfl, rfl⟩
      exact ⟨c, ⟨rfl, rfl⟩, rfl⟩
    · intro walk
      rcases walk with ⟨c', ⟨rfl, rfl⟩, rfl⟩
      exact ⟨rfl, rfl⟩
  | error e c =>
    refine ⟨?_, ?_⟩
    · intro returned
      cases returned
    · intro walk
      rcases walk with ⟨c', returned, _⟩
      cases returned

/-- What a pass leaves: the cell of an item is what its step, taken on the cell as it
was before the pass, returns with; a cell of no item is as it was. -/
structure Passed (key : ι → K) (step : ι → EStateM ε C Unit) (items : List ι)
    (cells cells' : K → C) : Prop where
  at_item : ∀ i ∈ items, step i (cells (key i)) = .ok () (cells' (key i))
  elsewhere : ∀ k, (∀ i ∈ items, key i ≠ k) → cells' k = cells k

section Pass

variable {key : ι → K} {step : ι → EStateM ε C Unit} {items items' : List ι}
  {cells cells' cells'' : K → C}

theorem passed_nil_iff : Passed key step [] cells cells' ↔ cells' = cells := by
  refine ⟨?_, ?_⟩
  · intro passed
    funext k
    exact passed.elsewhere k fun i member => absurd member List.not_mem_nil
  · rintro rfl
    refine ⟨?_, fun k _ => rfl⟩
    intro i member
    exact absurd member List.not_mem_nil

/-- Only which items there are matters, not their order. -/
theorem Passed.congr (passed : Passed key step items cells cells')
    (same : ∀ i, i ∈ items ↔ i ∈ items') : Passed key step items' cells cells' := by
  refine ⟨fun i member => passed.at_item i ((same i).mpr member), fun k none => ?_⟩
  exact passed.elsewhere k fun i member => none i ((same i).mp member)

variable [DecidableEq K]

/-- The first step, then the pass over the rest: the rest finds its cells as they were. -/
theorem passed_cons_iff {i : ι} (fresh : key i ∉ items.map key) :
    Passed key step (i :: items) cells cells'' ↔
      ∃ c, step i (cells (key i)) = .ok () c ∧
        Passed key step items (Function.update cells (key i) c) cells'' := by
  have other : ∀ j ∈ items, key j ≠ key i := by
    intro j member same
    exact fresh (same ▸ List.mem_map_of_mem member)
  refine ⟨?_, ?_⟩
  · intro passed
    refine ⟨cells'' (key i), passed.at_item i List.mem_cons_self, ?_, ?_⟩
    · intro j member
      rw [Function.update_of_ne (other j member)]
      exact passed.at_item j (List.mem_cons_of_mem i member)
    · intro k none
      by_cases own : k = key i
      · rw [own, Function.update_self]
      · rw [Function.update_of_ne own]
        apply passed.elsewhere k
        intro j member
        rcases List.mem_cons.mp member with rfl | member
        · exact Ne.symm own
        · exact none j member
  · intro walk
    rcases walk with ⟨c, stepped, rest⟩
    have kept : cells'' (key i) = c := by
      rw [rest.elsewhere (key i) other, Function.update_self]
    refine ⟨?_, ?_⟩
    · intro j member
      rcases List.mem_cons.mp member with rfl | member
      · rw [kept]
        exact stepped
      · have later := rest.at_item j member
        rwa [Function.update_of_ne (other j member)] at later
    · intro k none
      have own : k ≠ key i := Ne.symm (none i List.mem_cons_self)
      rw [rest.elsewhere k fun j member => none j (List.mem_cons_of_mem i member),
        Function.update_of_ne own]

/-- A pass over items with cells of their own returns with exactly what `Passed` says. -/
theorem pass_ok_iff (distinct : (items.map key).Nodup) :
    forM items (fun i => onCell (key i) (step i)) cells = .ok () cells' ↔
      Passed key step items cells cells' := by
  induction items generalizing cells with
  | nil =>
    rw [passed_nil_iff]
    change EStateM.Result.ok () cells = .ok () cells' ↔ _
    rw [EStateM.Result.ok.injEq]
    exact ⟨fun same => same.2.symm, fun same => ⟨rfl, same.symm⟩⟩
  | cons i items ih =>
    rw [List.map_cons, List.nodup_cons] at distinct
    rw [passed_cons_iff distinct.1]
    rw [List.forM_cons]
    simp only [bind, EStateM.bind]
    cases first : onCell (key i) (step i) cells with
    | ok u mid =>
      obtain ⟨c, stepped, rfl⟩ := onCell_ok_iff.mp first
      rw [ih distinct.2]
      refine ⟨?_, ?_⟩
      · intro rest
        exact ⟨c, stepped, rest⟩
      · intro walk
        rcases walk with ⟨c', stepped', rest⟩
        rw [stepped] at stepped'
        cases stepped'
        exact rest
    | error e mid =>
      refine ⟨?_, ?_⟩
      · intro returned
        cases returned
      · intro walk
        rcases walk with ⟨c, stepped, _⟩
        have returned := onCell_ok_iff.mpr ⟨c, stepped, rfl⟩
        rw [first] at returned
        cases returned

/-- When every step returns, taken on its own, there is a pass that returns. -/
theorem exists_passed (distinct : (items.map key).Nodup)
    (returns : ∀ i ∈ items, ∃ c, step i (cells (key i)) = .ok () c) :
    ∃ cells', Passed key step items cells cells' := by
  induction items generalizing cells with
  | nil => exact ⟨cells, passed_nil_iff.mpr rfl⟩
  | cons i items ih =>
    rw [List.map_cons, List.nodup_cons] at distinct
    obtain ⟨c, stepped⟩ := returns i List.mem_cons_self
    have rest : ∀ j ∈ items, ∃ d, step j (Function.update cells (key i) c (key j)) = .ok () d := by
      intro j member
      have other : key j ≠ key i := fun same => distinct.1 (same ▸ List.mem_map_of_mem member)
      rw [Function.update_of_ne other]
      exact returns j (List.mem_cons_of_mem i member)
    obtain ⟨cells', passed⟩ := ih distinct.2 rest
    exact ⟨cells', (passed_cons_iff distinct.1).mpr ⟨c, stepped, passed⟩⟩

/-! ## A pass that throws -/

theorem onCell_error_iff {k : K} {step : EStateM ε C α} {e : ε} :
    onCell k step cells = .error e cells' ↔
      ∃ c, step (cells k) = .error e c ∧ cells' = Function.update cells k c := by
  unfold onCell
  cases step (cells k) with
  | ok a c =>
    refine ⟨?_, ?_⟩
    · intro threw
      cases threw
    · intro walk
      rcases walk with ⟨c', threw, _⟩
      cases threw
  | error e' c =>
    simp only [EStateM.Result.error.injEq]
    refine ⟨?_, ?_⟩
    · intro same
      rcases same with ⟨rfl, rfl⟩
      exact ⟨c, ⟨rfl, rfl⟩, rfl⟩
    · intro walk
      rcases walk with ⟨c', ⟨rfl, rfl⟩, rfl⟩
      exact ⟨rfl, rfl⟩

omit [DecidableEq K] in
/-- What a pass that throws leaves: the items of `done` have had their steps, the item
`at_` has left its cell when it threw, and every other cell is as it was. -/
structure Stopped (key : ι → K) (step : ι → EStateM ε C Unit) (done : List ι) (at_ : ι) (e : ε)
    (cells cells' : K → C) : Prop where
  done_ : ∀ i ∈ done, step i (cells (key i)) = .ok () (cells' (key i))
  threw : step at_ (cells (key at_)) = .error e (cells' (key at_))
  elsewhere : ∀ k, key at_ ≠ k → (∀ i ∈ done, key i ≠ k) → cells' k = cells k

/-- A step that returns, before a pass that throws. -/
theorem Stopped.cons {i at_ : ι} {done : List ι} {e : ε} {c : C}
    (stepped : step i (cells (key i)) = .ok () c)
    (stopped : Stopped key step done at_ e (Function.update cells (key i) c) cells')
    (fresh : key at_ ≠ key i ∧ ∀ j ∈ done, key j ≠ key i) :
    Stopped key step (i :: done) at_ e cells cells' := by
  have kept : cells' (key i) = c := by
    rw [stopped.elsewhere (key i) fresh.1 fresh.2, Function.update_self]
  refine ⟨?_, ?_, ?_⟩
  · intro j member
    rcases List.mem_cons.mp member with rfl | member
    · rw [kept]
      exact stepped
    · have later := stopped.done_ j member
      rwa [Function.update_of_ne (fresh.2 j member)] at later
  · have threw := stopped.threw
    rwa [Function.update_of_ne fresh.1] at threw
  · intro k other none
    rw [stopped.elsewhere k other fun j member => none j (List.mem_cons_of_mem i member),
      Function.update_of_ne (Ne.symm (none i List.mem_cons_self))]

/-- A pass that throws has done the steps before one item, has thrown at it, and has not
come to the rest. -/
theorem stopped_of_pass (distinct : (items.map key).Nodup) {e : ε}
    (threw : forM items (fun i => onCell (key i) (step i)) cells = .error e cells') :
    ∃ done at_ rest, items = done ++ at_ :: rest ∧ Stopped key step done at_ e cells cells' := by
  induction items generalizing cells with
  | nil => cases threw
  | cons i items ih =>
    rw [List.map_cons, List.nodup_cons] at distinct
    have other : ∀ j ∈ items, key j ≠ key i := by
      intro j member same
      exact distinct.1 (same ▸ List.mem_map_of_mem member)
    rw [List.forM_cons] at threw
    simp only [bind, EStateM.bind] at threw
    cases first : onCell (key i) (step i) cells with
    | ok u mid =>
      rw [first] at threw
      obtain ⟨c, stepped, rfl⟩ := onCell_ok_iff.mp first
      obtain ⟨done, at_, rest, rfl, stopped⟩ := ih distinct.2 threw
      refine ⟨i :: done, at_, rest, rfl, stopped.cons stepped ⟨?_, ?_⟩⟩
      · exact other at_ (List.mem_append_right done List.mem_cons_self)
      · exact fun j member => other j (List.mem_append_left _ member)
    | error e' mid =>
      rw [first] at threw
      cases threw
      obtain ⟨c, stepped, rfl⟩ := onCell_error_iff.mp first
      refine ⟨[], i, items, rfl, ?_, ?_, ?_⟩
      · intro j member
        exact absurd member List.not_mem_nil
      · rw [Function.update_self]
        exact stepped
      · intro k differs _
        rw [Function.update_of_ne (Ne.symm differs)]

/-- The state a computation leaves, whether it returns or throws. -/
def left {σ : Type} : EStateM.Result ε σ α → σ
  | .ok _ s => s
  | .error _ s => s

/-- However a pass ends, a cell is as it was or as the step of one item left it. -/
theorem left_pass (distinct : (items.map key).Nodup) (k : K) :
    left (forM items (fun i => onCell (key i) (step i)) cells) k = cells k ∨
      ∃ i ∈ items, key i = k ∧
        left (forM items (fun i => onCell (key i) (step i)) cells) k = left (step i (cells k)) := by
  cases ran : forM items (fun i => onCell (key i) (step i)) cells with
  | ok u cells' =>
    have passed := (pass_ok_iff distinct).mp ran
    by_cases own : ∃ i ∈ items, key i = k
    · obtain ⟨i, member, rfl⟩ := own
      refine .inr ⟨i, member, rfl, ?_⟩
      rw [passed.at_item i member]
      rfl
    · exact .inl (passed.elsewhere k fun i member same => own ⟨i, member, same⟩)
  | error e cells' =>
    obtain ⟨done, at_, rest, rfl, stopped⟩ := stopped_of_pass distinct ran
    by_cases broke : key at_ = k
    · subst broke
      refine .inr ⟨at_, List.mem_append_right done List.mem_cons_self, rfl, ?_⟩
      rw [stopped.threw]
      rfl
    · by_cases own : ∃ i ∈ done, key i = k
      · obtain ⟨i, member, rfl⟩ := own
        refine .inr ⟨i, List.mem_append_left _ member, rfl, ?_⟩
        rw [stopped.done_ i member]
        rfl
      · exact .inl (stopped.elsewhere k broke fun i member same => own ⟨i, member, same⟩)

end Pass

end Keyed
