import SipXsbc.Keyed.Linearization

/-!
# Several workspaces of one server

A server has many workspaces. Each part of a client works on a workspace of its
own, found by its number, with operations and records of its own. To the parts
together the server is one store, whose keys are those of all of them
(`Client.onServer`), and an operation of a part is a program on it
(`Prog.onPart`).

* `Acts.of_parts`: if the commands of every part are acts on its own map, those of
  all parts together are acts on one map of everything.
* `Pool.run_elsewhere`: the other workspaces of the server stay as they are.
-/

namespace Keyed

variable {ι N W K V Q : Type} [DecidableEq ι] [DecidableEq N]

/-! ## The server as one store -/

/-- The store that the parts are to each other: part `i` is the workspace `number i`. -/
def Client.onServer (S : Client W K V Q) (number : ι → N) :
    Client (N → W) (ι × K) V (ι × Q) where
  set s k v ttl := Function.update s (number k.1) (S.set (s (number k.1)) k.2 v ttl)
  get s k := S.get (s (number k.1)) k.2
  del s k := Function.update s (number k.1) (S.del (s (number k.1)) k.2)
  expire s k := Function.update s (number k.1) (S.expire (s (number k.1)) k.2)
  query s q := S.query (s (number q.1)) q.2

/-- A query selects keys of its own part. -/
def selectsPart (selects : Q → K → Bool) (q : ι × Q) (k : ι × K) : Bool :=
  k.1 == q.1 && selects q.2 k.2

section Server

variable {S : Client W K V Q} {selects : Q → K → Bool} {number : ι → N}

theorem update_workspace (distinct : Function.Injective number) (s : N → W) (i j : ι) (w : W) :
    Function.update s (number i) w (number j) = if j = i then w else s (number j) := by
  rw [Function.update_apply]
  simp only [distinct.eq_iff]

/-- What is read when one key of one part has a new binding. -/
theorem get_update_workspace [DecidableEq K] (distinct : Function.Injective number) (s : N → W)
    (i : ι) (k : K) {w : W} {v : Option V}
    (get : S.get w = Function.update (S.get (s (number i))) k v) :
    (S.onServer number).get (Function.update s (number i) w) =
      Function.update ((S.onServer number).get s) (i, k) v := by
  funext k'
  obtain ⟨j, k'⟩ := k'
  change S.get (Function.update s (number i) w (number j)) k' = _
  rw [update_workspace distinct, Function.update_apply]
  by_cases here : j = i
  · subst here
    rw [if_pos rfl, get, Function.update_apply]
    simp only [Prod.mk.injEq, true_and]
    rfl
  · rw [if_neg here, if_neg fun same => here (congrArg Prod.fst same)]
    rfl

theorem Client.Lawful.onServer [DecidableEq K] (laws : S.Lawful selects)
    (distinct : Function.Injective number) :
    (S.onServer number).Lawful (selectsPart selects) where
  get_set s k v ttl := get_update_workspace distinct s k.1 k.2 (laws.get_set _ k.2 v ttl)
  get_del s k := get_update_workspace distinct s k.1 k.2 (laws.get_del _ k.2)
  get_expire s k := get_update_workspace distinct s k.1 k.2 (laws.get_expire _ k.2)
  query_live s q := by
    obtain ⟨i, q⟩ := q
    obtain ⟨keys, nodup, live, answer⟩ := laws.query_live (s (number i)) q
    refine ⟨keys.map fun k => (i, k), ?_, ?_, ?_⟩
    · exact nodup.map fun k k' same => congrArg Prod.snd same
    · intro k
      obtain ⟨j, k⟩ := k
      have pair : (j, k) ∈ keys.map (fun k => (i, k)) ↔ j = i ∧ k ∈ keys := by
        simp only [List.mem_map, Prod.mk.injEq]
        refine ⟨?_, ?_⟩
        · intro given
          obtain ⟨k', member, rfl, rfl⟩ := given
          exact ⟨rfl, member⟩
        · intro given
          exact ⟨k, given.2, given.1.symm, rfl⟩
      rw [pair, selectsPart, Bool.and_eq_true, beq_iff_eq, and_assoc]
      refine and_congr_right fun here => ?_
      subst here
      exact live k
    · rw [List.filterMap_map]
      exact answer

end Server

/-! ## Programs of a part -/

namespace Prog

variable {α β : Type}

/-- A program of part `i`, as one on the server. -/
def onPart (i : ι) (f : α → β) : Prog K V Q α → Prog (ι × K) V (ι × Q) β
  | .ret a => .ret (f a)
  | .set k v ttl next => .set (i, k) v ttl fun ok => (next ok).onPart i f
  | .get k next => .get (i, k) fun v => (next v).onPart i f
  | .del k next => .del (i, k) (next.onPart i f)
  | .query q next => .query (i, q) fun vs => (next vs).onPart i f

omit [DecidableEq ι] in
/-- A command of a part works on its workspace and on nothing else. -/
theorem step_onPart (S : Client W K V Q) (number : ι → N) (i : ι) (f : α → β)
    (p : Prog K V Q α) (s : N → W) :
    (p.onPart i f).step (S.onServer number) s =
      ((p.step S (s (number i))).1.onPart i f,
        Function.update s (number i) (p.step S (s (number i))).2) := by
  cases p with
  | ret a => exact Prod.ext rfl (Function.update_eq_self ..).symm
  | set k v ttl next => rfl
  | get k next => exact Prod.ext rfl (Function.update_eq_self ..).symm
  | del k next => rfl
  | query q next => exact Prod.ext rfl (Function.update_eq_self ..).symm

omit [DecidableEq ι] in
theorem onPart_eq_ret {i : ι} {f : α → β} {p : Prog K V Q α} {b : β}
    (returns : p.onPart i f = .ret b) : ∃ a, p = .ret a ∧ f a = b := by
  cases p with
  | ret a =>
      cases returns
      exact ⟨a, rfl, rfl⟩
  | set k v ttl next => cases returns
  | get k next => cases returns
  | del k next => cases returns
  | query q next => cases returns

end Prog

/-! ## One map of everything -/

section Maps

variable {R : ι → Type}

/-- The records of part `i`. -/
def view (i : ι) (m : ι × K → Option (Σ i, R i)) (k : K) : Option (R i) :=
  (m (i, k)).bind fun r => if own : r.1 = i then some (own ▸ r.2) else none

/-- The map with other records for part `i`. -/
def put (i : ι) (m₁ : K → Option (R i)) (m : ι × K → Option (Σ i, R i)) :
    ι × K → Option (Σ i, R i) :=
  fun k => if k.1 = i then (m₁ k.2).map (Sigma.mk i) else m k

/-- The map of the records of all parts. -/
def together (ms : ∀ i, K → Option (R i)) : ι × K → Option (Σ i, R i) :=
  fun k => (ms k.1 k.2).map (Sigma.mk k.1)

theorem view_of_eq {i : ι} {m : ι × K → Option (Σ i, R i)} {k : K} {r : Option (R i)}
    (bound : m (i, k) = r.map (Sigma.mk i)) : view i m k = r := by
  rw [view, bound]
  cases r with
  | none => rfl
  | some r => exact dif_pos rfl

@[simp] theorem view_put (i : ι) (m₁ : K → Option (R i)) (m : ι × K → Option (Σ i, R i)) :
    view i (put i m₁ m) = m₁ := by
  funext k
  exact view_of_eq (if_pos rfl)

@[simp] theorem view_together (ms : ∀ i, K → Option (R i)) (i : ι) :
    view i (together ms) = ms i := by
  funext k
  exact view_of_eq rfl

/-- Every record belongs to the part whose key it has. -/
def OwnPart (m : ι × K → Option (Σ i, R i)) : Prop := ∀ k r, m k = some r → r.1 = k.1

theorem OwnPart.eq_view {m : ι × K → Option (Σ i, R i)} (own : OwnPart m) (i : ι) (k : K) :
    m (i, k) = (view i m k).map (Sigma.mk i) := by
  cases bound : m (i, k) with
  | none => rw [view_of_eq (r := none) bound]; rfl
  | some r =>
      have here := own _ _ bound
      obtain ⟨j, r⟩ := r
      cases here
      rw [view_of_eq (r := some r) bound]
      rfl

theorem OwnPart.put_view {m : ι × K → Option (Σ i, R i)} (own : OwnPart m) (i : ι) :
    put i (view i m) m = m := by
  funext k
  obtain ⟨j, k⟩ := k
  unfold put
  dsimp only
  split
  · rename_i here
    subst here
    exact (own.eq_view j k).symm
  · rfl

theorem put_put (i : ι) (m₁ m₂ : K → Option (R i)) (m : ι × K → Option (Σ i, R i)) :
    put i m₂ (put i m₁ m) = put i m₂ m := by
  funext k
  unfold put
  split <;> rfl

end Maps

/-! ## The parts as one store of records -/

/-- What has to be known of one part: its operations and its records. -/
structure Part (K V Q Op Answer R : Type) where
  code : Op → Prog K V Q Answer
  encode : R → V
  key : R → K
  spec : MapSpec K R Op Answer
  expands : Op → List (Op × Answer) → Answer → Prop
  stage : Op → List (Op × Answer) → Prog K V Q Answer → Prop

namespace Parts

variable {Op Answer R : ι → Type} (parts : ∀ i, Part K V Q (Op i) (Answer i) (R i))

def code (op : Σ i, Op i) : Prog (ι × K) V (ι × Q) (Σ i, Answer i) :=
  ((parts op.1).code op.2).onPart op.1 (Sigma.mk op.1)

def encode (r : Σ i, R i) : V := (parts r.1).encode r.2

def key (r : Σ i, R i) : ι × K := (r.1, (parts r.1).key r.2)

/-- An operation answers and acts as in its own part, and leaves the others alone. -/
def spec : MapSpec (ι × K) (Σ i, R i) (Σ i, Op i) (Σ i, Answer i) where
  answers op m a := ∃ a', a = ⟨op.1, a'⟩ ∧ (parts op.1).spec.answers op.2 (view op.1 m) a'
  next op m := put op.1 ((parts op.1).spec.next op.2 (view op.1 m)) m

/-- Acts of part `i` as acts of all parts. -/
def acts (i : ι) (acts : List (Op i × Answer i)) : List ((Σ i, Op i) × (Σ i, Answer i)) :=
  acts.map fun o => (⟨i, o.1⟩, ⟨i, o.2⟩)

inductive Expands : (Σ i, Op i) → List ((Σ i, Op i) × (Σ i, Answer i)) → (Σ i, Answer i) → Prop
  | part {i : ι} {op : Op i} {own : List (Op i × Answer i)} {a : Answer i} :
    (parts i).expands op own a → Expands ⟨i, op⟩ (acts i own) ⟨i, a⟩

inductive Stage : (Σ i, Op i) → List ((Σ i, Op i) × (Σ i, Answer i)) →
    Prog (ι × K) V (ι × Q) (Σ i, Answer i) → Prop
  | part {i : ι} {op : Op i} {own : List (Op i × Answer i)} {p : Prog K V Q (Answer i)} :
    (parts i).stage op own p → Stage ⟨i, op⟩ (acts i own) (p.onPart i (Sigma.mk i))

omit [DecidableEq ι] in
theorem acts_append (i : ι) (own more : List (Op i × Answer i)) :
    acts i (own ++ more) = acts i own ++ acts i more := List.map_append

variable {parts} {S : Client W K V Q} {number : ι → N} {s : N → W}
  {m : ι × K → Option (Σ i, R i)}

omit [DecidableEq ι] in
theorem ownPart (rep : Represents (S.onServer number) (encode parts) (key parts) s m) :
    OwnPart m :=
  fun k r bound => congrArg Prod.fst (rep.own_key k r bound)

/-- Each part finds its records in its own workspace. -/
theorem represents_view (rep : Represents (S.onServer number) (encode parts) (key parts) s m)
    (i : ι) :
    Represents S (parts i).encode (parts i).key (s (number i)) (view i m) where
  get_eq k := by
    have read := rep.get_eq (i, k)
    rw [(ownPart rep).eq_view i k, Option.map_map] at read
    exact read
  own_key k r bound := by
    have here := (ownPart rep).eq_view i k
    rw [bound] at here
    exact congrArg Prod.snd (rep.own_key (i, k) ⟨i, r⟩ here)

/-- A workspace with other records, and the map with them. -/
theorem represents_put (distinct : Function.Injective number)
    (rep : Represents (S.onServer number) (encode parts) (key parts) s m) {i : ι} {w : W}
    {m₁ : K → Option (R i)} (rep₁ : Represents S (parts i).encode (parts i).key w m₁) :
    Represents (S.onServer number) (encode parts) (key parts)
      (Function.update s (number i) w) (put i m₁ m) where
  get_eq k := by
    obtain ⟨j, k⟩ := k
    change S.get (Function.update s (number i) w (number j)) k = _
    rw [update_workspace distinct, put]
    by_cases here : j = i
    · subst here
      rw [if_pos rfl, if_pos rfl, rep₁.get_eq, Option.map_map]
      rfl
    · rw [if_neg here, if_neg here]
      exact rep.get_eq (j, k)
  own_key k r bound := by
    obtain ⟨j, k⟩ := k
    unfold put at bound
    dsimp only at bound
    split at bound
    · rename_i here
      subst here
      obtain ⟨r', bound', rfl⟩ := Option.map_eq_some_iff.mp bound
      exact congrArg (Prod.mk j) (rep₁.own_key k r' bound')
    · exact rep.own_key (j, k) r bound

omit [DecidableEq ι] in
/-- The server holds the records of all parts, if each workspace holds its own. -/
theorem represents_together {ms : ∀ i, K → Option (R i)}
    (reps : ∀ i, Represents S (parts i).encode (parts i).key (s (number i)) (ms i)) :
    Represents (S.onServer number) (encode parts) (key parts) s (together ms) where
  get_eq k := by
    rw [together, Option.map_map]
    exact (reps k.1).get_eq k.2
  own_key k r bound := by
    obtain ⟨r', bound', rfl⟩ := Option.map_eq_some_iff.mp bound
    exact Prod.ext rfl ((reps k.1).own_key k.2 r' bound')

/-- What a part may answer to acts on its records it may answer to them on all. -/
theorem performs (own : OwnPart m) {i : ι} {done : List (Op i × Answer i)} {m₁ : K → Option (R i)}
    (performs : (parts i).spec.Performs (view i m) done m₁) :
    (spec parts).Performs m (acts i done) (put i m₁ m) := by
  induction performs with
  | none =>
      rw [own.put_view]
      exact .none
  | @more done m₁ op a before answers ih =>
      rw [acts_append]
      have next : put i ((parts i).spec.next op m₁) m =
          (spec parts).next ⟨i, op⟩ (put i m₁ m) := by
        change _ = put i ((parts i).spec.next op (view i (put i m₁ m))) (put i m₁ m)
        rw [view_put, put_put]
      rw [next]
      refine .more ih ⟨a, rfl, ?_⟩
      rw [view_put]
      exact answers

end Parts

namespace Pool

variable {Op Answer R : ι → Type} {parts : ∀ i, Part K V Q (Op i) (Answer i) (R i)}
  {S : Client W K V Q} {number : ι → N}

/-- **The parts together are acts on one map.** -/
theorem Acts.of_parts (distinct : Function.Injective number)
    (each : ∀ i, Acts S (parts i).code (parts i).encode (parts i).key (parts i).spec
      (parts i).expands (parts i).stage) :
    Acts (S.onServer number) (Parts.code parts) (Parts.encode parts) (Parts.key parts)
      (Parts.spec parts) (Parts.Expands parts) (Parts.Stage parts) where
  begins op := by
    obtain ⟨i, op⟩ := op
    obtain ⟨first, at_, performs⟩ := (each i).begins op
    refine ⟨Parts.acts i first, .part at_, ?_⟩
    intro s m rep
    have own := Parts.ownPart rep
    have all := Parts.performs own (performs _ _ (Parts.represents_view rep i))
    rwa [own.put_view] at all
  command op done p s m at_ busy rep := by
    cases at_ with
    | @part i op own p at_ =>
        have busy' : p.Busy := by
          intro a returns
          subst returns
          exact busy _ rfl
        obtain ⟨more, m₁, performs, next, rep₁⟩ :=
          (each i).command op own p _ _ at_ busy' (Parts.represents_view rep i)
        refine ⟨Parts.acts i more, put i m₁ m, Parts.performs (Parts.ownPart rep) performs, ?_, ?_⟩
        · rw [Prog.step_onPart, ← Parts.acts_append]
          exact .part next
        · rw [Prog.step_onPart]
          exact Parts.represents_put distinct rep rep₁
  ends op done a at_ := by
    generalize shape : (Prog.ret a : Prog (ι × K) V (ι × Q) (Σ i, Answer i)) = p at at_
    cases at_ with
    | @part i op own p at_ =>
        obtain ⟨a', rfl, rfl⟩ := Prog.onPart_eq_ret shape.symm
        exact .part ((each i).ends op own a' at_)
  within op done p at_ := by
    cases at_ with
    | @part i op own p at_ =>
        obtain ⟨rest, a, expands⟩ := (each i).within op own p at_
        refine ⟨Parts.acts i rest, ⟨i, a⟩, ?_⟩
        rw [← Parts.acts_append]
        exact .part expands

end Pool

/-! ## The other workspaces -/

section Elsewhere

variable {S : Client W K V Q} {number : ι → N} {n : N}

omit [DecidableEq ι] in
/-- A command works on the workspace of a part. -/
theorem Prog.step_elsewhere {α : Type} (elsewhere : ∀ i, n ≠ number i)
    (p : Prog (ι × K) V (ι × Q) α) (s : N → W) : (p.step (S.onServer number) s).2 n = s n := by
  cases p with
  | ret a => rfl
  | set k v ttl next => exact Function.update_of_ne (elsewhere k.1) ..
  | get k next => rfl
  | del k next => exact Function.update_of_ne (elsewhere k.1) ..
  | query q next => rfl

omit [DecidableEq ι] in
/-- A workspace of no part stays as it is, over any run. -/
theorem Pool.run_elsewhere {Op Answer : Type} {code : Op → Prog (ι × K) V (ι × Q) Answer}
    (elsewhere : ∀ i, n ≠ number i) (s : N → W) (scripts : List (List Op))
    (schedule : List (Choice (ι × K))) :
    ((Pool.start s scripts).run (S.onServer number) code schedule).store n = s n := by
  have rules : Rules (S.onServer number) code (fun s' => s' n = s n) (fun _ _ => True)
      fun _ => True := by
    refine ⟨fun _ _ => trivial, ?_, ?_⟩
    · intro op p s' _ _ same
      exact ⟨(p.step_elsewhere elsewhere s').trans same, trivial⟩
    · intro s' k same
      exact (Function.update_of_ne (elsewhere k.1) ..).trans same
  exact (rules.run (Holds.start rfl fun _ _ => trivial) schedule).store

end Elsewhere

end Keyed
