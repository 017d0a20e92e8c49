import Mathlib.Data.List.Basic
import Mathlib.Logic.Function.Basic

/-!
# Distributing items over several lists

Items are taken one after another. Each is appended to the list it is routed to, or
passed over when it is routed nowhere, and the first that is appended to any of the
lists is remembered. A list then has the items that were routed to it, in their
order, and what is remembered is the first item that was routed at all.
-/

namespace Keyed

variable {ι K α : Type}

/-- The lists, with what was appended first to any of them. -/
structure Trays (K α : Type) where
  lists : K → List α
  first : Option α

namespace Trays

variable [DecidableEq K]

def put (k : K) (a : α) (t : Trays K α) : Trays K α where
  lists := Function.update t.lists k (t.lists k ++ [a])
  first := t.first.or (some a)

theorem put_lists_self (k : K) (a : α) (t : Trays K α) :
    (t.put k a).lists k = t.lists k ++ [a] :=
  Function.update_self ..

theorem put_lists_of_ne {k k' : K} (other : k' ≠ k) (a : α) (t : Trays K α) :
    (t.put k a).lists k' = t.lists k' :=
  Function.update_of_ne other ..

def distribute (route : ι → Option K) (entry : ι → α) (t : Trays K α) (i : ι) : Trays K α :=
  match route i with
  | none => t
  | some k => t.put k (entry i)

def distributeAll (route : ι → Option K) (entry : ι → α) (t : Trays K α) (items : List ι) :
    Trays K α :=
  items.foldl (distribute route entry) t

variable {route : ι → Option K} {entry : ι → α} {t : Trays K α}

theorem distribute_none {i : ι} (nowhere : route i = none) : distribute route entry t i = t := by
  unfold distribute
  rw [nowhere]

theorem distribute_some {i : ι} {k : K} (routed : route i = some k) :
    distribute route entry t i = t.put k (entry i) := by
  unfold distribute
  rw [routed]

theorem distributeAll_cons (i : ι) (items : List ι) :
    distributeAll route entry t (i :: items) =
      distributeAll route entry (distribute route entry t i) items := rfl

/-- A list ends up as it was, followed by the items that were routed to it. -/
theorem distributeAll_lists (t : Trays K α) (items : List ι) (k : K) :
    (distributeAll route entry t items).lists k =
      t.lists k ++ (items.filter fun i => route i = some k).map entry := by
  induction items generalizing t with
  | nil => exact (List.append_nil _).symm
  | cons i items ih =>
      rw [distributeAll_cons, ih]
      cases routed : route i with
      | none =>
          rw [distribute_none routed, List.filter_cons_of_neg (by simp [routed])]
      | some k' =>
          rw [distribute_some routed]
          by_cases own : k' = k
          case pos =>
            subst own
            rw [List.filter_cons_of_pos (by simp [routed]), put_lists_self, List.append_assoc]
            rfl
          case neg =>
            rw [List.filter_cons_of_neg (by simp [routed, own]), put_lists_of_ne (Ne.symm own)]

/-- What is remembered is the first item that was routed to some list. -/
theorem distributeAll_first (t : Trays K α) (items : List ι) :
    (distributeAll route entry t items).first =
      t.first.or ((items.find? fun i => (route i).isSome).map entry) := by
  induction items generalizing t with
  | nil => exact (Option.or_none).symm
  | cons i items ih =>
      rw [distributeAll_cons, ih]
      cases routed : route i with
      | none => rw [distribute_none routed, List.find?_cons_of_neg (by simp [routed])]
      | some k =>
          rw [distribute_some routed, List.find?_cons_of_pos (by simp [routed])]
          unfold put
          rw [Option.or_assoc]
          rfl

/-- The lists are as they were exactly when no item was routed to one of them. -/
theorem distributeAll_lists_eq_iff (t : Trays K α) (items : List ι) :
    (∀ k, (distributeAll route entry t items).lists k = t.lists k) ↔
      ∀ i ∈ items, route i = none := by
  refine ⟨?_, ?_⟩
  · intro same i member
    cases routed : route i with
    | none => rfl
    | some k =>
        have all := same k
        rw [distributeAll_lists, List.append_right_eq_self, List.map_eq_nil_iff,
          List.filter_eq_nil_iff] at all
        exact absurd (by simp [routed]) (all i member)
  · intro nowhere k
    rw [distributeAll_lists, List.append_right_eq_self, List.map_eq_nil_iff,
      List.filter_eq_nil_iff]
    intro i member
    simp [nowhere i member]

end Trays

end Keyed
