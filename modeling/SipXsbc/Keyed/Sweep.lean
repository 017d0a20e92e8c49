import Mathlib.Logic.Function.Basic
import Mathlib.Data.List.Basic
import Mathlib.Data.List.Induction

/-!
# Removal by snapshot

A sweep empties the selected keys of a map in two stages: it reads which of
them are bound, and then unbinds these one by one. Between its moves other
operations change the map. `Sweep` is the map with the operations done so far
and the keys still to unbind; `Sweep.Move` is one move of either side.

* `Sweep.Keywise`: at each key the map is as after the same operations with the
  sweep done in one go somewhere among them.
* `Sweep.Settles`: what the last operation on each key comes to, if every one
  assigns to one key (`Assigns`); it is lost if the sweep unbinds the key later.
* `Sweep.Settles.divided`: one place serves for all keys, if the operations can be
  divided into early and late ones so that what stands is late and what is lost
  is early.
-/

namespace Keyed

variable {K R Op : Type}

/-- The map after some operations. -/
def after (next : Op → (K → Option R) → K → Option R) (m : K → Option R) (ops : List Op) :
    K → Option R :=
  ops.foldl (fun m op => next op m) m

/-- Unbind the selected keys in one go. -/
def clear (sel : K → Bool) (m : K → Option R) : K → Option R :=
  fun k => if sel k then none else m k

/-- What an operation does to a key depends only on what the key is bound to. -/
def KeyLocal (next : Op → (K → Option R) → K → Option R) : Prop :=
  ∀ op m m' k, m k = m' k → next op m k = next op m' k

variable {next : Op → (K → Option R) → K → Option R} {sel : K → Bool} {m₀ : K → Option R}

theorem after_append (m : K → Option R) (ops ops' : List Op) :
    after next m (ops ++ ops') = after next (after next m ops) ops' := List.foldl_append

theorem after_snoc (m : K → Option R) (ops : List Op) (op : Op) :
    after next m (ops ++ [op]) = next op (after next m ops) := after_append m ops [op]

/-- Operations after which the sweep is done in one go, and operations after it. -/
def sweptAfter (next : Op → (K → Option R) → K → Option R) (sel : K → Bool) (m : K → Option R)
    (before later : List Op) : K → Option R :=
  after next (clear sel (after next m before)) later

/-- The operations done so far, the keys still to be unbound once they are
known, and the map. -/
structure Sweep (K R Op : Type) where
  ops : List Op
  pending : Option (List K)
  map : K → Option R

namespace Sweep

/-- An operation, which labels the move, the read of the sweep, or one of its
deletions. -/
inductive Move [DecidableEq K] (next : Op → (K → Option R) → K → Option R) (sel : K → Bool) :
    Option Op → Sweep K R Op → Sweep K R Op → Prop
  | op {ops : List Op} {pending : Option (List K)} {m : K → Option R} (op : Op) :
    Move next sel (some op) ⟨ops, pending, m⟩ ⟨ops ++ [op], pending, next op m⟩
  | read {ops : List Op} {m : K → Option R} {ks : List K} :
    ks.Nodup → (∀ k, k ∈ ks ↔ sel k = true ∧ (m k).isSome) →
    Move next sel none ⟨ops, none, m⟩ ⟨ops, some ks, m⟩
  | delete {ops : List Op} {m : K → Option R} {k : K} {ks : List K} :
    Move next sel none ⟨ops, some (k :: ks), m⟩ ⟨ops, some ks, Function.update m k none⟩

/-- A key still to be unbound is as if there were no sweep, any other as if the
sweep had been done in one go at some moment. -/
def Keywise (next : Op → (K → Option R) → K → Option R) (sel : K → Bool) (m₀ : K → Option R)
    (s : Sweep K R Op) : Prop :=
  match s.pending with
  | none => s.map = after next m₀ s.ops
  | some ks => ks.Nodup ∧ (∀ k ∈ ks, sel k = true ∧ s.map k = after next m₀ s.ops k) ∧
      ∀ k ∉ ks, ∃ before later, s.ops = before ++ later ∧
        s.map k = sweptAfter next sel m₀ before later k

theorem sweptAfter_snoc (before later : List Op) (op : Op) :
    sweptAfter next sel m₀ before (later ++ [op]) = next op (sweptAfter next sel m₀ before later) :=
  after_snoc _ later op

/-- A key that was not read is as if the sweep were done. -/
theorem eq_clear_of_not_read {m : K → Option R} {ks : List K}
    (live : ∀ k, k ∈ ks ↔ sel k = true ∧ (m k).isSome) {k : K} (unread : k ∉ ks) :
    m k = clear sel m k := by
  unfold clear
  split
  · rename_i selected
    have unbound : ¬ (m k).isSome := fun isSome => unread ((live k).mpr ⟨selected, isSome⟩)
    simpa using unbound
  · rfl

theorem Keywise.move [DecidableEq K] (keyLocal : KeyLocal next) {s s' : Sweep K R Op}
    {label : Option Op} (held : s.Keywise next sel m₀) (move : Move next sel label s s') :
    s'.Keywise next sel m₀ := by
  cases move with
  | @op ops pending m op =>
      rcases pending with _ | ks
      · have same : m = after next m₀ ops := held
        have next_ : next op m = after next m₀ (ops ++ [op]) := by rw [after_snoc, same]
        exact next_
      · obtain ⟨nodup, inside, outside⟩ := held
        refine ⟨nodup, fun k hk => ⟨(inside k hk).1, ?_⟩, fun k hk => ?_⟩
        · rw [after_snoc]
          exact keyLocal op _ _ k (inside k hk).2
        · obtain ⟨before, later, split, same⟩ := outside k hk
          have split' : ops ++ [op] = before ++ (later ++ [op]) := by
            rw [← List.append_assoc, ← split]
          refine ⟨before, later ++ [op], split', ?_⟩
          rw [sweptAfter_snoc]
          exact keyLocal op _ _ k same
  | @read ops m ks nodup live =>
      have same : m = after next m₀ ops := held
      refine ⟨nodup, fun k hk => ⟨((live k).mp hk).1, by rw [same]⟩, fun k hk => ?_⟩
      have unread : m k = clear sel m k := eq_clear_of_not_read live hk
      refine ⟨ops, [], (List.append_nil ops).symm, ?_⟩
      unfold sweptAfter
      rw [← same]
      exact unread
  | @delete ops m k ks =>
      obtain ⟨nodup, inside, outside⟩ := held
      obtain ⟨fresh, nodup⟩ := List.nodup_cons.mp nodup
      refine ⟨nodup, fun k' hk' => ?_, fun k' hk' => ?_⟩
      · have other : k' ≠ k := by
          intro same
          exact fresh (same ▸ hk')
        have kept := inside k' (List.mem_cons_of_mem k hk')
        exact ⟨kept.1, (Function.update_of_ne other none m).trans kept.2⟩
      · by_cases same : k' = k
        · -- the sweep of this key is now
          subst same
          have selected := (inside k' List.mem_cons_self).1
          refine ⟨ops, [], (List.append_nil ops).symm, ?_⟩
          simp [sweptAfter, after, clear, selected]
        · obtain ⟨before, later, split, eq⟩ := outside k' (by simp [same, hk'])
          exact ⟨before, later, split, (Function.update_of_ne same none m).trans eq⟩

theorem Keywise.finished {ops : List Op} {m : K → Option R}
    (held : (⟨ops, some [], m⟩ : Sweep K R Op).Keywise next sel m₀) (k : K) :
    ∃ before later, ops = before ++ later ∧ m k = sweptAfter next sel m₀ before later k :=
  held.2.2 k List.not_mem_nil

theorem Move.ops [DecidableEq K] {s s' : Sweep K R Op} {label : Option Op}
    (move : Move next sel label s s') : s'.ops = s.ops ++ label.toList := by
  cases move with
  | op op => rfl
  | read nodup live => exact (List.append_nil _).symm
  | delete => exact (List.append_nil _).symm

end Sweep

/-! ## Operations that assign -/

/-- The operation changes at most the key it names, and leaves there what it puts. -/
structure Assigns (next : Op → (K → Option R) → K → Option R) (key : Op → Option K)
    (puts : Op → Option R) (op : Op) : Prop where
  other : ∀ m k, key op ≠ some k → next op m k = m k
  same : ∀ m k, key op = some k → next op m k = puts op

variable [DecidableEq K] {key : Op → Option K} {puts : Op → Option R}

/-- The last operation on a key. -/
def lastOn (key : Op → Option K) (k : K) (ops : List Op) : Option Op :=
  (ops.filter fun op => key op = some k).getLast?

theorem lastOn_snoc (k : K) (ops : List Op) (op : Op) :
    lastOn key k (ops ++ [op]) = if key op = some k then some op else lastOn key k ops := by
  unfold lastOn
  rw [List.filter_append]
  split
  · rename_i here
    rw [List.filter_cons_of_pos (by simpa using here), List.filter_nil, List.getLast?_concat]
  · rename_i elsewhere
    rw [List.filter_cons_of_neg (by simpa using elsewhere), List.filter_nil, List.append_nil]

theorem lastOn_split {k : K} {ops : List Op} {op : Op} (last : lastOn key k ops = some op) :
    ∃ before, (ops.filter fun op => key op = some k) = before ++ [op] :=
  List.getLast?_eq_some_iff.mp last

theorem mem_of_lastOn {k : K} {ops : List Op} {op : Op} (last : lastOn key k ops = some op) :
    op ∈ ops ∧ key op = some k := by
  have member := List.mem_of_getLast? last
  rw [List.mem_filter, decide_eq_true_eq] at member
  exact member

/-- Operations leave at a key what the last one on it puts there. -/
theorem after_eq_lastOn {ops : List Op} (assigns : ∀ op ∈ ops, Assigns next key puts op)
    (m : K → Option R) (k : K) : after next m ops k = (lastOn key k ops).elim (m k) puts := by
  induction ops using List.reverseRecOn with
  | nil => rfl
  | append_singleton ops op ih =>
      have assign := assigns op (List.mem_append_right ops List.mem_cons_self)
      rw [after_snoc, lastOn_snoc]
      split
      · rename_i here
        exact assign.same _ k here
      · rename_i elsewhere
        rw [assign.other _ k elsewhere]
        exact ih fun op member => assigns op (List.mem_append_left _ member)

/-- What is picked out of the operations, and has the last one on a key in it, has
this one as its last. -/
theorem lastOn_filter {k : K} {ops : List Op} {op : Op} (last : lastOn key k ops = some op)
    {pick : Op → Bool} (picked : pick op = true) :
    lastOn key k (ops.filter pick) = some op := by
  obtain ⟨before, split⟩ := lastOn_split last
  unfold lastOn
  rw [List.filter_comm, split, List.filter_append, List.filter_cons_of_pos picked, List.filter_nil,
    List.getLast?_concat]

/-- The key that an operation binds. -/
def boundBy (key : Op → Option K) (puts : Op → Option R) (op : Op) : Option K :=
  if (puts op).isSome then key op else none

/-- Binding the key spares it: it is selected, and the sweep, past its read, is
not going to unbind it. -/
def spares (sel : K → Bool) : Option (List K) → Option K → Bool
  | some pending, some k => sel k && decide (k ∉ pending)
  | _, _ => false

/-- What stands at a selected key that is not to be unbound any more. -/
def standing (puts : Op → Option R) (spared : Op → Bool) (last : Option Op) : Option R :=
  last.bind fun op => if spared op then puts op else none

namespace Sweep

variable {spared : Op → Bool}

/-- What the last operation on each key comes to. -/
structure Settles (next : Op → (K → Option R) → K → Option R) (sel : K → Bool)
    (key : Op → Option K) (puts : Op → Option R) (spared : Op → Bool) (m₀ : K → Option R)
    (s : Sweep K R Op) : Prop where
  assigns : ∀ op ∈ s.ops, Assigns next key puts op
  unread : s.pending = none → s.map = after next m₀ s.ops ∧ ∀ op ∈ s.ops, spared op = false
  unselected : ∀ k, sel k = false → s.map k = after next m₀ s.ops k
  pending : ∀ ks, s.pending = some ks → ∀ k ∈ ks, sel k = true ∧
    ∀ op, lastOn key k s.ops = some op → spared op = false
  swept : ∀ ks, s.pending = some ks → ∀ k, sel k = true → k ∉ ks →
    s.map k = standing puts spared (lastOn key k s.ops)

theorem Settles.start (m₀ : K → Option R) :
    Settles next sel key puts spared m₀ ⟨[], none, m₀⟩ where
  assigns _ member := nomatch member
  unread _ := ⟨rfl, fun _ member => nomatch member⟩
  unselected _ _ := rfl
  pending _ known := nomatch known
  swept _ known := nomatch known

theorem standing_of_not_spared {last : Option Op}
    (none_ : ∀ op, last = some op → spared op = false) : standing puts spared last = none := by
  cases last with
  | none => rfl
  | some op =>
      change (if spared op then puts op else none) = none
      rw [none_ op rfl]
      rfl

/-- An operation leaves at the key it names what it puts there, also under a sweep
that does not spare it: then it puts nothing, or the sweep comes later. -/
theorem Settles.op {ops : List Op} {pending : Option (List K)} {m : K → Option R}
    (settles : Settles next sel key puts spared m₀ ⟨ops, pending, m⟩) {op : Op}
    (assign : Assigns next key puts op) (fate : spared op = spares sel pending (boundBy key puts op)) :
    Settles next sel key puts spared m₀ ⟨ops ++ [op], pending, next op m⟩ where
  assigns op' member := by
    rcases List.mem_append.mp member with old | new
    · exact settles.assigns op' old
    · rw [List.mem_singleton.mp new]
      exact assign
  unread none_ := by
    obtain rfl : pending = none := none_
    obtain ⟨same, never⟩ := settles.unread rfl
    obtain rfl : m = after next m₀ ops := same
    refine ⟨(after_snoc m₀ ops op).symm, fun op' member => ?_⟩
    rcases List.mem_append.mp member with old | new
    · exact never op' old
    · rw [List.mem_singleton.mp new]
      exact fate
  unselected k out := by
    have before : m k = after next m₀ ops k := settles.unselected k out
    rw [after_snoc]
    by_cases here : key op = some k
    · exact (assign.same m k here).trans (assign.same _ k here).symm
    · exact (assign.other m k here).trans (before.trans (assign.other _ k here).symm)
  pending ks known k mem := by
    obtain rfl : pending = some ks := known
    obtain ⟨selected, never⟩ := settles.pending ks rfl k mem
    refine ⟨selected, fun op' last => ?_⟩
    rw [lastOn_snoc] at last
    split at last
    · rename_i here
      cases last
      rw [fate, boundBy, here]
      split
      · simp [spares, mem]
      · rfl
    · exact never op' last
  swept ks known k selected out := by
    obtain rfl : pending = some ks := known
    rw [lastOn_snoc]
    split
    · rename_i here
      have comes : spared op = (puts op).isSome := by
        rw [fate, boundBy, here]
        cases puts op with
        | none => rfl
        | some r => simp [spares, selected, out]
      refine (assign.same m k here).trans ?_
      change puts op = if spared op then puts op else none
      rw [comes]
      cases puts op with
      | none => rfl
      | some r => rfl
    · rename_i elsewhere
      exact (assign.other m k elsewhere).trans (settles.swept ks rfl k selected out)

theorem Settles.move {s s' : Sweep K R Op} {label : Option Op}
    (settles : Settles next sel key puts spared m₀ s) (move : Move next sel label s s')
    (takes : ∀ op, label = some op →
      Assigns next key puts op ∧ spared op = spares sel s.pending (boundBy key puts op)) :
    Settles next sel key puts spared m₀ s' := by
  cases move with
  | op op =>
      obtain ⟨assign, fate⟩ := takes op rfl
      exact settles.op assign fate
  | @read ops m ks nodup live =>
      obtain ⟨same, never⟩ := settles.unread rfl
      have notSpared : ∀ k op, lastOn key k ops = some op → spared op = false :=
        fun k op last => never op (mem_of_lastOn last).1
      refine ⟨settles.assigns, nofun, settles.unselected, ?_, ?_⟩
      · intro ks' known k mem
        cases known
        exact ⟨((live k).mp mem).1, notSpared k⟩
      · intro ks' known k selected out
        cases known
        have unread : m k = clear sel m k := eq_clear_of_not_read live out
        rw [standing_of_not_spared (notSpared k)]
        exact unread.trans (if_pos selected)
  | @delete ops m k ks =>
      obtain ⟨selected, notSpared⟩ := settles.pending _ rfl k List.mem_cons_self
      refine ⟨settles.assigns, nofun, ?_, ?_, ?_⟩
      · intro k' out
        have other : k' ≠ k := by
          intro same
          rw [same, selected] at out
          cases out
        exact (Function.update_of_ne other none m).trans (settles.unselected k' out)
      · intro ks' known k' mem
        cases known
        exact settles.pending _ rfl k' (List.mem_cons_of_mem k mem)
      · intro ks' known k' selected' out
        cases known
        by_cases same : k' = k
        · subst same
          rw [standing_of_not_spared notSpared]
          exact Function.update_self k' none m
        · have kept := settles.swept _ rfl k' selected' (by simp [same, out])
          exact (Function.update_of_ne same none m).trans kept

/-! ## One moment for all keys -/

/-- A division of the operations into early and late ones, for a sweep in between:
the last operation on a key is late if it stands; where it is lost no operation that
puts something under the key is late; and it is late with any other on the key that
puts something else there. -/
structure Divides (sel : K → Bool) (key : Op → Option K) (puts : Op → Option R)
    (spared late : Op → Bool) (ops : List Op) : Prop where
  stands : ∀ k op, lastOn key k ops = some op → spared op = true → late op = true
  lost : ∀ k op op', lastOn key k ops = some op' → op ∈ ops → key op = some k →
    late op = true → sel k = true → (puts op).isSome → (puts op').isSome → spared op' = true
  follows : ∀ k op op', lastOn key k ops = some op' → op ∈ ops → key op = some k →
    late op = true → puts op ≠ puts op' → late op' = true

/-- A late operation that puts the same as the last one on its key puts what comes of the
key. -/
theorem Divides.late_comes {ops : List Op} {late : Op → Bool}
    (divides : Divides sel key puts spared late ops) {k : K} {op op' : Op}
    (last : lastOn key k ops = some op) (member : op' ∈ ops) (names : key op' = some k)
    (isLate : late op' = true) (same : puts op' = puts op) :
    (if sel k then standing puts spared (some op) else puts op) = puts op' := by
  rw [same]
  cases selected : sel k with
  | false => rfl
  | true =>
      change (if spared op then puts op else none) = puts op
      cases put : puts op with
      | none => exact ite_self none
      | some r =>
          have some_ : (puts op).isSome := by rw [put]; rfl
          rw [divides.lost k op' op last member names isLate selected (by rw [same]; exact some_)
            some_]
          rfl

/-- The sweep at its end is as if done in one go between the early and the late
operations. -/
theorem Settles.divided {ops : List Op} {m : K → Option R}
    (settles : Settles next sel key puts spared m₀ (⟨ops, some [], m⟩ : Sweep K R Op))
    {late : Op → Bool} (divides : Divides sel key puts spared late ops) (k : K) :
    m k = sweptAfter next sel m₀ (ops.filter fun op => !late op) (ops.filter late) k := by
  have assigns : ∀ pick : Op → Bool, ∀ op ∈ ops.filter pick, Assigns next key puts op :=
    fun pick op member => settles.assigns op (List.mem_of_mem_filter member)
  -- what the operations leave at the key, swept or not
  have comes : m k = if sel k then standing puts spared (lastOn key k ops)
      else (lastOn key k ops).elim (m₀ k) puts := by
    cases selected : sel k with
    | true => exact settles.swept [] rfl k selected List.not_mem_nil
    | false =>
        rw [if_neg Bool.false_ne_true, ← after_eq_lastOn settles.assigns]
        exact settles.unselected k selected
  rw [comes, sweptAfter, after_eq_lastOn (assigns late), clear, after_eq_lastOn (assigns _)]
  cases last : lastOn key k ops with
  | none =>
      have never : ∀ pick : Op → Bool, lastOn key k (ops.filter pick) = none := by
        intro pick
        unfold lastOn at last ⊢
        rw [List.getLast?_eq_none_iff] at last ⊢
        rw [List.filter_comm, last, List.filter_nil]
      rw [never, never]
      rfl
  | some op =>
      cases isLate : late op with
      | true =>
          obtain ⟨member, names⟩ := mem_of_lastOn last
          rw [lastOn_filter last isLate]
          exact divides.late_comes last member names isLate rfl
      | false =>
          have early : lastOn key k (ops.filter fun op => !late op) = some op :=
            lastOn_filter last (by rw [isLate]; rfl)
          have notSpared : spared op = false := by
            by_contra spared_
            rw [divides.stands k op last (by simpa using spared_)] at isLate
            cases isLate
          rw [early]
          cases lastLate : lastOn key k (ops.filter late) with
          | none =>
              change (if sel k then (if spared op then puts op else none) else puts op) =
                if sel k then none else puts op
              rw [notSpared]
              rfl
          | some op' =>
              -- a late operation beside an early last one puts the same as that
              obtain ⟨member, names⟩ := mem_of_lastOn lastLate
              rw [List.mem_filter] at member
              have same : puts op' = puts op := by
                by_contra differs
                rw [divides.follows k op' op last member.1 names member.2 differs] at isLate
                cases isLate
              exact divides.late_comes last member.1 names member.2 same

end Sweep

/-- A part of a list that comes last in it may be moved to the end. -/
theorem filter_not_append_filter {α : Type} {p : α → Bool} {l : List α}
    (last : l.Pairwise fun a b => p a = true → p b = true) :
    (l.filter fun a => !p a) ++ l.filter p = l := by
  induction l with
  | nil => rfl
  | cons a l ih =>
      obtain ⟨first, rest⟩ := List.pairwise_cons.mp last
      cases here : p a with
      | false =>
          rw [List.filter_cons_of_pos (by simp [here]), List.filter_cons_of_neg (by simp [here]),
            List.cons_append, ih rest]
      | true =>
          have all : ∀ b ∈ l, p b = true := fun b member => first b member here
          have none_ : (l.filter fun a => !p a) = [] := by
            rw [List.filter_eq_nil_iff]
            intro b member
            simp [all b member]
          rw [List.filter_cons_of_neg (by simp [here]), List.filter_cons_of_pos here, none_,
            List.filter_eq_self.mpr all, List.nil_append]

end Keyed
