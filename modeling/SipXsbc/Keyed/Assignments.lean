import Mathlib.Logic.Basic
import Mathlib.Data.List.Nodup

/-!
# Sequences of assignments

An object that reads as a map after every assignment reads, after a list of them,
as the last value assigned to a key, or as before. The assignments are made by the
entries of a list, each of at most one. Leaving some entries out is then harmless
exactly when each of them that no later entry overrides assigns what its key reads
as without it.
-/

namespace Keyed

variable {T K V α : Type}

/-- Make the assignments one after another. -/
def assignAll (set : T → K → V → T) (t : T) (as : List (K × V)) : T :=
  as.foldl (fun t a => set t a.1 a.2) t

/-- No entry of the list assigns to the key. -/
def Untouched (assigns : α → Option (K × V)) (xs : List α) (k : K) : Prop :=
  ∀ x ∈ xs, ∀ a, assigns x = some a → a.1 ≠ k

theorem Untouched.filter {assigns : α → Option (K × V)} {xs : List α} {k : K}
    (untouched : Untouched assigns xs k) (keep : α → Bool) :
    Untouched assigns (xs.filter keep) k :=
  fun x mem => untouched x (List.mem_of_mem_filter mem)

/-- A key is not assigned to, or there is the entry that does so last. -/
theorem untouched_or_last (assigns : α → Option (K × V)) (xs : List α) (k : K) :
    Untouched assigns xs k ∨ ∃ before x after v, xs = before ++ x :: after ∧
      assigns x = some (k, v) ∧ Untouched assigns after k := by
  induction xs with
  | nil => exact Or.inl fun x mem => absurd mem List.not_mem_nil
  | cons x xs ih =>
      rcases ih with untouched | ⟨before, y, after, v, split, assigned, untouched⟩
      case inr =>
        exact Or.inr ⟨x :: before, y, after, v, by rw [split]; rfl, assigned, untouched⟩
      by_cases here : ∃ v, assigns x = some (k, v)
      case pos =>
        obtain ⟨v, assigned⟩ := here
        exact Or.inr ⟨[], x, xs, v, rfl, assigned, untouched⟩
      case neg =>
        refine Or.inl fun y mem a assigned => ?_
        rcases List.mem_cons.mp mem with rfl | later
        · intro same
          exact here ⟨a.2, by rw [assigned, ← same]⟩
        · exact untouched y later a assigned

variable [DecidableEq K]

/-- `get` and `set` behave as those of a map. -/
def IsMap (get : T → K → Option V) (set : T → K → V → T) : Prop :=
  ∀ t k v k', get (set t k v) k' = if k' = k then some v else get t k'

/-- The value of the last assignment to a key. -/
def lastValue (as : List (K × V)) (k : K) : Option V :=
  as.reverse.findSome? fun a => if a.1 = k then some a.2 else none

theorem lastValue_append (as bs : List (K × V)) (k : K) :
    lastValue (as ++ bs) k = (lastValue bs k).or (lastValue as k) := by
  unfold lastValue
  rw [List.reverse_append, List.findSome?_append]

theorem lastValue_cons (a : K × V) (as : List (K × V)) (k : K) :
    lastValue (a :: as) k = (lastValue as k).or (if a.1 = k then some a.2 else none) := by
  have single : lastValue [a] k = if a.1 = k then some a.2 else none := by
    simp [lastValue]
  rw [← single, ← lastValue_append]
  rfl

theorem lastValue_eq_none_iff {as : List (K × V)} {k : K} :
    lastValue as k = none ↔ ∀ a ∈ as, a.1 ≠ k := by
  unfold lastValue
  rw [List.findSome?_eq_none_iff]
  apply forall_congr'
  intro a
  rw [List.mem_reverse]
  apply imp_congr_right
  intro _
  split
  case isTrue same => simp [same]
  case isFalse differs => simp [differs]

theorem lastValue_of_untouched {assigns : α → Option (K × V)} {xs : List α} {k : K}
    (untouched : Untouched assigns xs k) : lastValue (xs.filterMap assigns) k = none := by
  rw [lastValue_eq_none_iff]
  intro a mem
  rw [List.mem_filterMap] at mem
  obtain ⟨x, member, assigned⟩ := mem
  exact untouched x member a assigned

/-- Entries that assign nothing to a key may be left out. -/
theorem lastValue_flatMap_filter {assigns : α → List (K × V)} {xs : List α} {k : K}
    {keep : α → Bool} (dropped : ∀ x ∈ xs, keep x = false → ∀ a ∈ assigns x, a.1 ≠ k) :
    lastValue ((xs.filter keep).flatMap assigns) k = lastValue (xs.flatMap assigns) k := by
  induction xs with
  | nil => rfl
  | cons x xs ih =>
      obtain ⟨first, rest⟩ := List.forall_mem_cons.mp dropped
      rw [List.flatMap_cons, lastValue_append, ← ih rest]
      cases kept : keep x with
      | true => rw [List.filter_cons_of_pos kept, List.flatMap_cons, lastValue_append]
      | false =>
          rw [List.filter_cons_of_neg (by simp [kept]), lastValue_eq_none_iff.mpr (first kept),
            Option.or_none]

/-- The last value of a key is one that was assigned to it. -/
theorem mem_of_lastValue {as : List (K × V)} {k : K} {v : V} (last : lastValue as k = some v) :
    (k, v) ∈ as := by
  obtain ⟨a, mem, assigned⟩ := List.exists_of_findSome?_eq_some last
  split at assigned
  case isTrue same =>
    cases assigned
    subst same
    exact List.mem_reverse.mp mem
  case isFalse => cases assigned

/-- The entry after which nothing assigns to its key gives the last value. -/
theorem lastValue_of_last {assigns : α → Option (K × V)} {before after : List α} {x : α} {k : K}
    {v : V} (assigned : assigns x = some (k, v)) (untouched : Untouched assigns after k) :
    lastValue ((before ++ x :: after).filterMap assigns) k = some v := by
  rw [List.filterMap_append, List.filterMap_cons_some assigned, lastValue_append,
    lastValue_cons, lastValue_of_untouched untouched, if_pos rfl]
  rfl

/-- A key that only one entry can assign to gets that entry's value, or none. -/
theorem lastValue_of_only {assigns : α → Option (K × V)} {xs : List α} {x : α} {k : K}
    (mem : x ∈ xs) (own : ∀ a, assigns x = some a → a.1 = k)
    (only : ∀ y ∈ xs, ∀ v, assigns y = some (k, v) → y = x) :
    lastValue (xs.filterMap assigns) k = (assigns x).map Prod.snd := by
  rcases untouched_or_last assigns xs k with
    untouched | ⟨before, y, after, v, split, assigned, untouched⟩
  · rw [lastValue_of_untouched untouched]
    cases made : assigns x with
    | none => rfl
    | some a => exact absurd (own a made) (untouched x mem a made)
  · have same : y = x := by
      apply only y _ v assigned
      rw [split]
      exact List.mem_append_right before List.mem_cons_self
    rw [split, lastValue_of_last assigned untouched, ← same, assigned]
    rfl

section Map

variable {get : T → K → Option V} {set : T → K → V → T}

/-- After a list of assignments a key reads as the last value it got, or as
before. -/
theorem IsMap.get_assignAll (map : IsMap get set) (t : T) (as : List (K × V)) (k : K) :
    get (assignAll set t as) k = (lastValue as k).or (get t k) := by
  induction as generalizing t with
  | nil => rfl
  | cons a as ih =>
      have step := ih (set t a.1 a.2)
      change get (assignAll set (set t a.1 a.2) as) k = _
      rw [step, map, lastValue_cons, Option.or_assoc]
      congr 1
      by_cases same : a.1 = k
      case pos => rw [if_pos same, if_pos same.symm, Option.some_or]
      case neg => rw [if_neg same, if_neg (Ne.symm same), Option.none_or]

/-- When leaving entries out changes no reading. -/
theorem IsMap.readings_agree_iff (map : IsMap get set) (assigns : α → Option (K × V))
    (keep : α → Bool) (xs : List α) (t : T) :
    (∀ k, get (assignAll set t (xs.filterMap assigns)) k =
        get (assignAll set t ((xs.filter keep).filterMap assigns)) k) ↔
      ∀ before x after k v, xs = before ++ x :: after → keep x = false →
        assigns x = some (k, v) → Untouched assigns after k →
          get (assignAll set t ((before.filter keep).filterMap assigns)) k = some v := by
  simp only [map.get_assignAll]
  constructor
  case mp =>
    intro agree before x after k v split dropped assigned untouched
    have reading := agree k
    rw [split, lastValue_of_last assigned untouched, Option.some_or, List.filter_append,
      List.filter_cons_of_neg (by simp [dropped]), List.filterMap_append, lastValue_append,
      lastValue_of_untouched (untouched.filter keep), Option.none_or] at reading
    exact reading.symm
  case mpr =>
    intro redundant k
    rcases untouched_or_last assigns xs k with
      untouched | ⟨before, x, after, v, split, assigned, untouched⟩
    · rw [lastValue_of_untouched untouched, lastValue_of_untouched (untouched.filter keep)]
    · have rest := untouched.filter keep
      rw [split, lastValue_of_last assigned untouched, List.filter_append]
      cases kept : keep x with
      | true => rw [List.filter_cons_of_pos kept, lastValue_of_last assigned rest]
      | false =>
          have reading := redundant before x after k v split kept assigned untouched
          rw [List.filter_cons_of_neg (by simp [kept]), List.filterMap_append, lastValue_append,
            lastValue_of_untouched rest, Option.none_or, reading]
          rfl

/-! ## Fields of which some are not given -/

/-- The assignments of the fields that are given. -/
def given (fields : List (K × Option V)) : List (K × V) :=
  fields.filterMap fun f => f.2.map (Prod.mk f.1)

omit [DecidableEq K] in
theorem mem_given {fields : List (K × Option V)} {a : K × V} :
    a ∈ given fields ↔ (a.1, some a.2) ∈ fields := by
  obtain ⟨k, v⟩ := a
  simp only [given, List.mem_filterMap, Option.map_eq_some_iff, Prod.mk.injEq]
  refine ⟨?_, fun mem => ⟨_, mem, v, rfl, rfl, rfl⟩⟩
  intro present
  obtain ⟨⟨k', v'⟩, mem, v'', rfl, rfl, rfl⟩ := present
  exact mem

/-- A field is set to what is given for it, or not at all. -/
theorem lastValue_given {fields : List (K × Option V)} (distinct : (fields.map Prod.fst).Nodup)
    {f : K × Option V} (mem : f ∈ fields) : lastValue (given fields) f.1 = f.2 := by
  have only := @lastValue_of_only K V _ _ (fun f : K × Option V => f.2.map (Prod.mk f.1)) fields f
    f.1 mem ?_ ?_
  · refine only.trans ?_
    cases f.2 with
    | none => rfl
    | some v => rfl
  · intro a assigned
    obtain ⟨v, _, rfl⟩ := Option.map_eq_some_iff.mp assigned
    rfl
  · intro g here v assigned
    obtain ⟨v', _, same⟩ := Option.map_eq_some_iff.mp assigned
    exact List.inj_on_of_nodup_map distinct here mem (Prod.mk.inj same).1

/-- Fields that are given, and left alone after that, all read as given exactly if those that
were not given read as nothing before. -/
theorem IsMap.fields_read_iff (map : IsMap get set) (t : T) (before later : List (K × V))
    {fields : List (K × Option V)} (distinct : (fields.map Prod.fst).Nodup)
    (alone : ∀ f ∈ fields, ∀ a ∈ later, a.1 ≠ f.1) :
    (∀ f ∈ fields, get (assignAll set t (before ++ given fields ++ later)) f.1 = f.2) ↔
      ∀ f ∈ fields, f.2 = none → get (assignAll set t before) f.1 = none := by
  refine forall₂_congr fun f mem => ?_
  rw [map.get_assignAll, map.get_assignAll, lastValue_append, lastValue_append,
    lastValue_given distinct mem, lastValue_eq_none_iff.mpr (alone f mem), Option.none_or,
    Option.or_assoc]
  cases f.2 with
  | none => simp only [Option.none_or, forall_const]
  | some v => simp only [Option.some_or, reduceCtorEq, false_imp_iff]

end Map

end Keyed
