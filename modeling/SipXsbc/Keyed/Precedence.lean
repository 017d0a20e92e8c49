import Mathlib.Data.List.Sort
import Mathlib.Order.Extension.Linear
import SipXsbc.Keyed.Sweep

/-!
# Orders that leave a given map

Operations change a map, each at the keys it acts on, where it leaves what it puts
(`Writes`). Some of them have to come before others in any case. Whether any order of
them leaves a given map is a question about last operations: each key is to be given
one that puts what is there, and an operation then has to come before the last one on
each key it acts on (`Precedes`). There is such an order exactly if the last operations
can be chosen without a cycle (`Closing`).

* `exists_allowed`: operations can be put in an order that a relation without cycles allows.
* `Closing.exists_order`: last operations without a cycle come last in some order.
* `Closing.of_order`: those that come last in an order are without a cycle.
-/

namespace Keyed

variable {K R Op : Type}

/-- The operation leaves what it puts at the keys it acts on, and the rest as it is. -/
structure Writes (next : Op → (K → Option R) → K → Option R) (acts : Op → K → Prop)
    (puts : Op → Option R) (op : Op) : Prop where
  other : ∀ m k, ¬ acts op k → next op m k = m k
  same : ∀ m k, acts op k → next op m k = puts op

theorem Assigns.writes [DecidableEq K] {next : Op → (K → Option R) → K → Option R}
    {key : Op → Option K} {puts : Op → Option R} {op : Op} (assigns : Assigns next key puts op) :
    Writes next (fun op k => key op = some k) puts op :=
  ⟨assigns.other, assigns.same⟩

/-- An operation has to come before another: it does in any case, or the other is the
last one on a key it acts on. -/
inductive Precedes (earlier : Op → Op → Prop) (acts : Op → K → Prop) (ops : List Op)
    (last : K → Op) : Op → Op → Prop
  | own {a b : Op} : a ∈ ops → b ∈ ops → earlier a b → Precedes earlier acts ops last a b
  | last {a : Op} {k : K} : a ∈ ops → acts a k → a ≠ last k →
    Precedes earlier acts ops last a (last k)

/-- A last operation for each key that the operations act on: it puts what is there, and
no operation has to come before itself. -/
structure Closing (earlier : Op → Op → Prop) (acts : Op → K → Prop) (puts : Op → Option R)
    (ops : List Op) (m : K → Option R) (last : K → Op) : Prop where
  closes : ∀ a ∈ ops, ∀ k, acts a k → last k ∈ ops ∧ acts (last k) k ∧ puts (last k) = m k
  acyclic : ∀ a, ¬ Relation.TransGen (Precedes earlier acts ops last) a a

/-- A list can be put in an order that a relation without cycles allows. -/
theorem exists_allowed {α : Type} {before : α → α → Prop}
    (acyclic : ∀ a, ¬ Relation.TransGen before a a) (l : List α) :
    ∃ order : List α, order.Perm l ∧ order.Pairwise fun a b => ¬ before b a := by
  classical
  have antisymm : ∀ a b, Relation.ReflTransGen before a b → Relation.ReflTransGen before b a →
      a = b := by
    intro a b there back
    rcases Relation.reflTransGen_iff_eq_or_transGen.mp there with rfl | there
    · rfl
    · exact absurd (there.trans_left back) (acyclic a)
  have : IsPartialOrder α (Relation.ReflTransGen before) := { antisymm }
  obtain ⟨le, linear, extends_⟩ := extend_partialOrder (Relation.ReflTransGen before)
  refine ⟨l.insertionSort le, List.perm_insertionSort le l, ?_⟩
  refine (List.pairwise_insertionSort le l).imp fun {a b} ordered back => ?_
  have back' : le b a := extends_ b a (.single back)
  obtain rfl := antisymm_of le ordered back'
  exact acyclic a (.single back)

variable {next : Op → (K → Option R) → K → Option R} {acts : Op → K → Prop}
  {puts : Op → Option R} {earlier : Op → Op → Prop} {ops order : List Op} {last : K → Op}

/-- What is at a key stays there under operations that put it there. -/
theorem after_stays (writes : ∀ op ∈ ops, Writes next acts puts op) {m : K → Option R} {k : K}
    (same : ∀ op ∈ ops, acts op k → puts op = m k) : after next m ops k = m k := by
  induction ops generalizing m with
  | nil => rfl
  | cons op ops ih =>
      have write := writes op List.mem_cons_self
      have kept : next op m k = m k := by
        by_cases act : acts op k
        · exact (write.same m k act).trans (same op List.mem_cons_self act)
        · exact write.other m k act
      have later := ih (m := next op m) (fun op' member => writes op' (.tail op member))
        fun op' member act => (same op' (.tail op member) act).trans kept.symm
      exact later.trans kept

/-- An operation after which all that act on a key put the same there decides it. -/
theorem after_split (writes : ∀ op ∈ order, Writes next acts puts op) (m : K → Option R) {k : K}
    {op : Op} {before later : List Op} (split : order = before ++ op :: later) (act : acts op k)
    (same : ∀ op' ∈ later, acts op' k → puts op' = puts op) : after next m order k = puts op := by
  subst split
  have here : next op (after next m before) k = puts op :=
    (writes op (List.mem_append_right before List.mem_cons_self)).same _ k act
  rw [after_append]
  change after next (next op (after next m before)) later k = puts op
  rw [← here]
  refine after_stays (fun op' member => writes op' ?_) fun op' member act' => ?_
  · exact List.mem_append_right before (.tail op member)
  · exact (same op' member act').trans here.symm

/-- Last operations without a cycle come last in some order. -/
theorem Closing.exists_order {m m' : K → Option R} (closing : Closing earlier acts puts ops m' last)
    (writes : ∀ op ∈ ops, Writes next acts puts op)
    (untouched : ∀ k, (∀ op ∈ ops, ¬ acts op k) → m' k = m k) :
    ∃ order : List Op, order.Perm ops ∧ (order.Pairwise fun a b => ¬ earlier b a) ∧
      after next m order = m' := by
  obtain ⟨order, perm, allowed⟩ := exists_allowed closing.acyclic ops
  have inOps : ∀ {op}, op ∈ order → op ∈ ops := fun member => perm.mem_iff.mp member
  refine ⟨order, perm, ?_, funext fun k => ?_⟩
  · refine allowed.imp_of_mem ?_
    intro a b inOrder inOrder' notBefore own
    exact notBefore (.own (inOps inOrder') (inOps inOrder) own)
  · have writes' : ∀ op ∈ order, Writes next acts puts op := fun op member =>
      writes op (inOps member)
    by_cases touched : ∃ op ∈ ops, acts op k
    · obtain ⟨op, member, act⟩ := touched
      obtain ⟨lastMem, lastActs, lastPuts⟩ := closing.closes op member k act
      obtain ⟨before, later, split⟩ := List.append_of_mem (perm.mem_iff.mpr lastMem)
      rw [← lastPuts]
      refine after_split writes' m split lastActs fun op' member' act' => ?_
      -- what acts on the key and is not the last one on it cannot come after that
      rw [split, List.pairwise_append] at allowed
      have notAfter := (List.pairwise_cons.mp allowed.2.1).1 op' member'
      have inOrder : op' ∈ order := split ▸ List.mem_append_right before (.tail _ member')
      by_contra differs
      refine notAfter (.last (inOps inOrder) act' fun same => ?_)
      exact differs (congrArg puts same)
    · push Not at touched
      have kept : after next m order k = m k :=
        after_stays writes' fun op member act => absurd act (touched op (inOps member))
      rw [kept, untouched k touched]

/-- The last operation in a list that acts on a key. -/
theorem exists_last {k : K} (touched : ∃ op ∈ order, acts op k) :
    ∃ op before later, order = before ++ op :: later ∧ acts op k ∧ ∀ op' ∈ later, ¬ acts op' k := by
  induction order with
  | nil =>
      obtain ⟨op, member, _⟩ := touched
      cases member
  | cons a order ih =>
      by_cases rest : ∃ op ∈ order, acts op k
      · obtain ⟨op, before, later, rfl, found⟩ := ih rest
        exact ⟨op, a :: before, later, rfl, found⟩
      · push Not at rest
        obtain ⟨op, member, act⟩ := touched
        rcases List.mem_cons.mp member with rfl | member
        · exact ⟨op, [], order, rfl, act, rest⟩
        · exact absurd act (rest op member)

section Position

variable [DecidableEq Op]

/-- What cannot come after another comes before it. -/
theorem idxOf_lt_of_pairwise {related : Op → Op → Prop}
    (allowed : order.Pairwise fun a b => ¬ related b a) {a b : Op} (inOrder : a ∈ order)
    (inOrder' : b ∈ order) (rel : related a b) (other : a ≠ b) : order.idxOf a < order.idxOf b := by
  by_contra notBefore
  have differ : order.idxOf a ≠ order.idxOf b := fun same =>
    other ((List.idxOf_inj inOrder).mp same)
  have before : order.idxOf b < order.idxOf a := by omega
  have never := List.pairwise_iff_getElem.mp allowed _ _ (List.idxOf_lt_length_of_mem inOrder')
    (List.idxOf_lt_length_of_mem inOrder) before
  rw [List.getElem_idxOf, List.getElem_idxOf] at never
  exact never rel

/-- Each operation on a key comes before the last one on it. -/
theorem idxOf_lt_of_split (nodup : order.Nodup) {k : K} {op : Op} {before later : List Op}
    (split : order = before ++ op :: later) (none_ : ∀ op' ∈ later, ¬ acts op' k) {a : Op}
    (member : a ∈ order) (act : acts a k) (other : a ≠ op) : order.idxOf a < order.idxOf op := by
  subst split
  have notLater : a ∉ later := fun isLater => none_ a isLater act
  have isBefore : a ∈ before := by
    rcases List.mem_append.mp member with isBefore | rest
    · exact isBefore
    · rcases List.mem_cons.mp rest with same | isLater
      · exact absurd same other
      · exact absurd isLater notLater
  have opNotBefore : op ∉ before := fun again =>
    (List.nodup_append.mp nodup).2.2 op again op List.mem_cons_self rfl
  rw [List.idxOf_append_of_mem isBefore, List.idxOf_append_of_notMem opNotBefore]
  have inside := List.idxOf_lt_length_of_mem isBefore
  omega

end Position

/-- Operations that come last in an order are without a cycle. -/
theorem Closing.of_order [Inhabited Op] (nodup : ops.Nodup) (irrefl : ∀ op, ¬ earlier op op)
    (writes : ∀ op ∈ ops, Writes next acts puts op) (perm : order.Perm ops)
    (allowed : order.Pairwise fun a b => ¬ earlier b a) (m : K → Option R) :
    ∃ last, Closing earlier acts puts ops (after next m order) last := by
  classical
  have chosen : ∀ k, ∃ op, (∃ op' ∈ order, acts op' k) → ∃ before later,
      order = before ++ op :: later ∧ acts op k ∧ ∀ op' ∈ later, ¬ acts op' k := by
    intro k
    by_cases touched : ∃ op ∈ order, acts op k
    · obtain ⟨op, found⟩ := exists_last touched
      exact ⟨op, fun _ => found⟩
    · exact ⟨default, fun touched' => absurd touched' touched⟩
  choose last found using chosen
  have inOrder : ∀ {op}, op ∈ ops → op ∈ order := fun member => perm.mem_iff.mpr member
  refine ⟨last, fun a member k act => ?_, fun a cycle => ?_⟩
  · obtain ⟨before, later, split, lastActs, none_⟩ := found k ⟨a, inOrder member, act⟩
    have lastMem : last k ∈ order := split ▸ List.mem_append_right before List.mem_cons_self
    refine ⟨perm.mem_iff.mp lastMem, lastActs, Eq.symm ?_⟩
    exact after_split (fun op member => writes op (perm.mem_iff.mp member)) m split lastActs
      fun op' isLater act' => absurd act' (none_ op' isLater)
  · have forward : ∀ {a b}, Precedes earlier acts ops last a b →
        order.idxOf a < order.idxOf b := by
      intro a b precedes
      cases precedes with
      | own member member' own =>
          have other : a ≠ b := by
            rintro rfl
            exact irrefl a own
          exact idxOf_lt_of_pairwise allowed (inOrder member) (inOrder member') own other
      | @last k member act other =>
          obtain ⟨before, later, split, -, none_⟩ := found k ⟨a, inOrder member, act⟩
          exact idxOf_lt_of_split (perm.nodup_iff.mpr nodup) split none_ (inOrder member) act other
    have onward : ∀ {b}, Relation.TransGen (Precedes earlier acts ops last) a b →
        order.idxOf a < order.idxOf b := by
      intro b path
      induction path with
      | single step => exact forward step
      | tail _ step ih => exact ih.trans (forward step)
    exact (onward cycle).false

/-- Last operations stay such under a renaming of what is put. -/
theorem Closing.map_iff {R' : Type} {f : R → R'} (injective : Function.Injective f)
    {m : K → Option R} :
    Closing earlier acts (fun op => (puts op).map f) ops (fun k => (m k).map f) last ↔
      Closing earlier acts puts ops m last := by
  have same : ∀ r r' : Option R, r.map f = r'.map f ↔ r = r' := fun r r' =>
    (Option.map_injective injective).eq_iff
  constructor
  · intro closing
    refine ⟨fun a member k act => ?_, closing.acyclic⟩
    obtain ⟨lastMem, lastActs, lastPuts⟩ := closing.closes a member k act
    exact ⟨lastMem, lastActs, (same _ _).mp lastPuts⟩
  · intro closing
    refine ⟨fun a member k act => ?_, closing.acyclic⟩
    obtain ⟨lastMem, lastActs, lastPuts⟩ := closing.closes a member k act
    exact ⟨lastMem, lastActs, congrArg (Option.map f) lastPuts⟩

end Keyed
