import SipXsbc.Keyed.Program

/-!
# Interleavings of programs over a keyed store

Several workers share one store. Each works through its list of operations, and
each operation is a program whose commands take effect one at a time; between
any two commands the other workers may run and keys may expire. A `Pool` is the
store with its workers, a schedule says who moves next, and every command
succeeds.

* `Pool.Step` says all that a step can do (`Pool.step_cases`).
* `Pool.Rules.run` is the rule for thread-modular invariants: one on the store
  and one on each program in progress, kept by every command.
* `Pool.AboutToDelete.run`: a key that a worker is about to delete is gone or
  still to be deleted by it, as long as nobody writes the key.
* `Interleaves` says that one order of operations keeps each worker's own.
* `exists_relabel`: an order of the same operations is one of the same labels.
-/

namespace Keyed

variable {W K V Q Op Answer : Type}

/-- A worker: the operation it is in, with what is left of its program, and the
operations still to come. -/
structure Worker (K V Q Op Answer : Type) where
  running : Option (Op × Prog K V Q Answer)
  todo : List Op

structure Pool (W K V Q Op Answer : Type) where
  store : W
  workers : List (Worker K V Q Op Answer)

/-- Who moves next: a worker, or the store by itself. -/
inductive Choice (K : Type)
  | work (i : Nat)
  | expire (k : K)
  deriving DecidableEq

/-- What is left is a command and what follows it. -/
def Prog.Busy (p : Prog K V Q Answer) : Prop := ∀ a, p ≠ .ret a

instance : DecidablePred (Prog.Busy : Prog K V Q Answer → Prop)
  | .ret a => .isFalse fun busy => busy a rfl
  | .set _ _ _ _ | .get _ _ | .del _ _ | .query _ _ => .isTrue fun _ => nofun

namespace Pool

/-- Every worker is before its first operation. -/
def start (w : W) (scripts : List (List Op)) : Pool W K V Q Op Answer :=
  ⟨w, scripts.map fun todo => ⟨none, todo⟩⟩

def setWorker (c : Pool W K V Q Op Answer) (i : Nat) (t : Worker K V Q Op Answer) :
    Pool W K V Q Op Answer :=
  { c with workers := c.workers.set i t }

@[simp] theorem setWorker_store (c : Pool W K V Q Op Answer) (i : Nat)
    (t : Worker K V Q Op Answer) : (c.setWorker i t).store = c.store := rfl

theorem getElem?_setWorker_ne {c : Pool W K V Q Op Answer} {i j : Nat}
    {t : Worker K V Q Op Answer} (other : i ≠ j) :
    (c.setWorker i t).workers[j]? = c.workers[j]? := List.getElem?_set_ne other

theorem getElem?_setWorker_self {c : Pool W K V Q Op Answer} {i : Nat}
    {t u : Worker K V Q Op Answer} (found : c.workers[i]? = some u) :
    (c.setWorker i t).workers[i]? = some t := by
  obtain ⟨inside, _⟩ := List.getElem?_eq_some_iff.mp found
  exact List.getElem?_set_self inside

/-- A worker begins its next operation, leaves one that is over, or issues one
command. -/
def work (S : Client W K V Q) (code : Op → Prog K V Q Answer) (c : Pool W K V Q Op Answer)
    (i : Nat) : Pool W K V Q Op Answer :=
  match c.workers[i]? with
  | none => c
  | some ⟨none, []⟩ => c
  | some ⟨none, op :: todo⟩ => c.setWorker i ⟨some (op, code op), todo⟩
  | some ⟨some (_, .ret _), todo⟩ => c.setWorker i ⟨none, todo⟩
  | some ⟨some (op, p), todo⟩ =>
      { c with store := (p.step S c.store).2 }.setWorker i ⟨some (op, (p.step S c.store).1), todo⟩

def step (S : Client W K V Q) (code : Op → Prog K V Q Answer) (c : Pool W K V Q Op Answer) :
    Choice K → Pool W K V Q Op Answer
  | .work i => c.work S code i
  | .expire k => { c with store := S.expire c.store k }

def run (S : Client W K V Q) (code : Op → Prog K V Q Answer) (c : Pool W K V Q Op Answer)
    (schedule : List (Choice K)) : Pool W K V Q Op Answer :=
  schedule.foldl (step S code) c

/-- Every worker has done all its operations. -/
def Finished (c : Pool W K V Q Op Answer) : Prop := ∀ t ∈ c.workers, t = ⟨none, []⟩

/-! ## What a step can do -/

/-- The cases of a step, each with the worker it finds. -/
inductive Step (S : Client W K V Q) (code : Op → Prog K V Q Answer)
    (c : Pool W K V Q Op Answer) : Choice K → Pool W K V Q Op Answer → Prop
  | idle {i : Nat} : (∀ t, c.workers[i]? = some t → t = ⟨none, []⟩) → Step S code c (.work i) c
  | begins {i : Nat} {op : Op} {todo : List Op} :
    c.workers[i]? = some ⟨none, op :: todo⟩ →
    Step S code c (.work i) (c.setWorker i ⟨some (op, code op), todo⟩)
  | ends {i : Nat} {op : Op} {a : Answer} {todo : List Op} :
    c.workers[i]? = some ⟨some (op, .ret a), todo⟩ →
    Step S code c (.work i) (c.setWorker i ⟨none, todo⟩)
  | command {i : Nat} {op : Op} {p : Prog K V Q Answer} {todo : List Op} :
    c.workers[i]? = some ⟨some (op, p), todo⟩ → p.Busy →
    Step S code c (.work i)
      ({ c with store := (p.step S c.store).2 }.setWorker i
        ⟨some (op, (p.step S c.store).1), todo⟩)
  | expires {k : K} : Step S code c (.expire k) { c with store := S.expire c.store k }

variable {S : Client W K V Q} {code : Op → Prog K V Q Answer}

/-- A busy worker issues its command. -/
theorem work_busy {c : Pool W K V Q Op Answer} {i : Nat} {op : Op} {p : Prog K V Q Answer}
    {todo : List Op} (at_ : c.workers[i]? = some ⟨some (op, p), todo⟩) (busy : p.Busy) :
    c.work S code i =
      { c with store := (p.step S c.store).2 }.setWorker i
        ⟨some (op, (p.step S c.store).1), todo⟩ := by
  unfold work
  rw [at_]
  cases p with
  | ret a => exact absurd rfl (busy a)
  | set k v ttl next => rfl
  | get k next => rfl
  | del k next => rfl
  | query q next => rfl

/-- A worker before an operation begins it. -/
theorem step_call {c : Pool W K V Q Op Answer} {i : Nat} {op : Op} {todo : List Op}
    (found : c.workers[i]? = some ⟨none, op :: todo⟩) :
    c.step S code (.work i) = c.setWorker i ⟨some (op, code op), todo⟩ := by
  simp only [step, work, found]

theorem run_cons (c : Pool W K V Q Op Answer) (choice : Choice K) (schedule : List (Choice K)) :
    c.run S code (choice :: schedule) = (c.step S code choice).run S code schedule := rfl

theorem run_append (c : Pool W K V Q Op Answer) (schedule schedule' : List (Choice K)) :
    c.run S code (schedule ++ schedule') = (c.run S code schedule).run S code schedule' :=
  List.foldl_append

theorem step_cases (c : Pool W K V Q Op Answer) (choice : Choice K) :
    Step S code c choice (c.step S code choice) := by
  cases choice with
  | expire k => exact .expires
  | work i =>
      cases found : c.workers[i]? with
      | none =>
          have same : c.step S code (.work i) = c := by simp only [step, work, found]
          rw [same]
          refine .idle fun t found' => ?_
          rw [found] at found'
          cases found'
      | some t =>
          rcases t with ⟨_ | ⟨op, p⟩, todo⟩
          · cases todo with
            | nil =>
                have same : c.step S code (.work i) = c := by simp only [step, work, found]
                rw [same]
                refine .idle fun t found' => ?_
                rw [found] at found'
                exact (Option.some.inj found').symm
            | cons op todo =>
                have next : c.step S code (.work i) =
                    c.setWorker i ⟨some (op, code op), todo⟩ := by simp only [step, work, found]
                rw [next]
                exact .begins found
          · by_cases busy : p.Busy
            · have next : c.step S code (.work i) = _ := work_busy found busy
              rw [next]
              exact .command found busy
            · unfold Prog.Busy at busy
              push Not at busy
              obtain ⟨a, rfl⟩ := busy
              have next : c.step S code (.work i) = c.setWorker i ⟨none, todo⟩ := by
                simp only [step, work, found]
              rw [next]
              exact .ends found

/-- A worker is where it was after a move that is not its own. -/
theorem Step.worker_of_other {c c' : Pool W K V Q Op Answer} {choice : Choice K}
    (step : Step S code c choice c') {i : Nat} (other : choice ≠ .work i) :
    c'.workers[i]? = c.workers[i]? := by
  have differs : ∀ {j}, (.work j : Choice K) ≠ .work i → j ≠ i :=
    fun other same => other (congrArg Choice.work same)
  cases step with
  | idle => rfl
  | begins => exact getElem?_setWorker_ne (differs other)
  | ends => exact getElem?_setWorker_ne (differs other)
  | @command j op p todo found busy =>
      exact getElem?_setWorker_ne (c := { c with store := _ }) (differs other)
  | expires => rfl

theorem worker_run_of_others {c : Pool W K V Q Op Answer} {i : Nat} {schedule : List (Choice K)}
    (others : .work i ∉ schedule) : (c.run S code schedule).workers[i]? = c.workers[i]? := by
  induction schedule generalizing c with
  | nil => rfl
  | cons choice schedule ih =>
      rw [List.mem_cons, not_or] at others
      rw [run_cons, ih others.2]
      exact (step_cases c choice).worker_of_other (Ne.symm others.1)

/-! ## Thread-modular invariants -/

/-- The store invariant holds, every program in progress keeps to its part, and
the operations to come are of the kind the scripts are made of. -/
structure Holds (store : W → Prop) (part : Op → Prog K V Q Answer → Prop) (kind : Op → Prop)
    (c : Pool W K V Q Op Answer) : Prop where
  store : store c.store
  running : ∀ t ∈ c.workers, ∀ op p, t.running = some (op, p) → part op p
  todo : ∀ t ∈ c.workers, ∀ op ∈ t.todo, kind op

/-- What has to be shown of single commands. -/
structure Rules (S : Client W K V Q) (code : Op → Prog K V Q Answer) (store : W → Prop)
    (part : Op → Prog K V Q Answer → Prop) (kind : Op → Prop) : Prop where
  begins : ∀ op, kind op → part op (code op)
  command : ∀ op p w, part op p → p.Busy → store w →
    store (p.step S w).2 ∧ part op (p.step S w).1
  expires : ∀ w k, store w → store (S.expire w k)

variable {store : W → Prop} {part : Op → Prog K V Q Answer → Prop} {kind : Op → Prop}

theorem Holds.start {w : W} {scripts : List (List Op)} (held : store w)
    (kinds : ∀ op ∈ scripts.flatten, kind op) :
    Holds store part kind (Pool.start w scripts : Pool W K V Q Op Answer) where
  store := held
  running := by
    intro t member op p running
    obtain ⟨todo, _, rfl⟩ := List.mem_map.mp member
    cases running
  todo := by
    intro t member op hop
    obtain ⟨todo, script, rfl⟩ := List.mem_map.mp member
    exact kinds op (List.mem_flatten_of_mem script hop)

/-- One worker changes, to one that keeps to its part. -/
theorem Holds.setWorker {c : Pool W K V Q Op Answer} (holds : Holds store part kind c) {i : Nat}
    {t : Worker K V Q Op Answer} (running : ∀ op p, t.running = some (op, p) → part op p)
    (todo : ∀ op ∈ t.todo, kind op) : Holds store part kind (c.setWorker i t) where
  store := holds.store
  running := by
    intro t' member
    rcases List.mem_or_eq_of_mem_set member with old | rfl
    · exact holds.running t' old
    · exact running
  todo := by
    intro t' member
    rcases List.mem_or_eq_of_mem_set member with old | rfl
    · exact holds.todo t' old
    · exact todo

theorem Rules.step (rules : Rules S code store part kind) {c c' : Pool W K V Q Op Answer}
    {choice : Choice K} (holds : Holds store part kind c) (step : Step S code c choice c') :
    Holds store part kind c' := by
  cases step with
  | idle => exact holds
  | begins found =>
      have todo := holds.todo _ (List.mem_of_getElem? found)
      apply holds.setWorker
      · intro op p running
        cases running
        exact rules.begins _ (todo _ List.mem_cons_self)
      · exact fun op hop => todo op (List.mem_cons_of_mem _ hop)
  | ends found =>
      have todo := holds.todo _ (List.mem_of_getElem? found)
      apply holds.setWorker
      · intro op p running
        cases running
      · exact todo
  | command found busy =>
      have member := List.mem_of_getElem? found
      have todo := holds.todo _ member
      have kept := rules.command _ _ _ (holds.running _ member _ _ rfl) busy holds.store
      have moved : Holds store part kind { c with store := _ } :=
        ⟨kept.1, holds.running, holds.todo⟩
      apply moved.setWorker
      · intro op p running
        cases running
        exact kept.2
      · exact todo
  | expires => exact ⟨rules.expires _ _ holds.store, holds.running, holds.todo⟩

/-- A thread-modular invariant holds in every pool that a schedule reaches. -/
theorem Rules.run (rules : Rules S code store part kind) {c : Pool W K V Q Op Answer}
    (holds : Holds store part kind c) (schedule : List (Choice K)) :
    Holds store part kind (c.run S code schedule) := by
  induction schedule generalizing c with
  | nil => exact holds
  | cons choice schedule ih => exact ih (rules.step holds (step_cases c choice))

end Pool

/-! ## Pending deletions -/

/-- Among the deletions a program goes on with is one of `k`. -/
inductive Prog.WillDelete (k : K) : Prog K V Q Answer → Prop
  | here {next : Prog K V Q Answer} : WillDelete k (.del k next)
  | later {k' : K} {next : Prog K V Q Answer} : WillDelete k next → WillDelete k (.del k' next)

theorem Prog.WillDelete.busy {k : K} {p : Prog K V Q Answer} (will : p.WillDelete k) : p.Busy := by
  intro a isRet
  subst isRet
  cases will

theorem Prog.willDelete_delEach {β : Type} {k : K} {ks : List K} (member : k ∈ ks)
    (f : Unit → Prog K V Q β) : ((Prog.delEach ks).bind f).WillDelete k := by
  induction ks with
  | nil => cases member
  | cons k' ks ih =>
      rcases List.mem_cons.mp member with rfl | rest
      · exact .here
      · exact .later (ih rest)

/-- The deletions a program goes on with. -/
def Prog.deletions : Prog K V Q Answer → List K
  | .del k next => k :: next.deletions
  | .ret _ | .set _ _ _ _ | .get _ _ | .query _ _ => []

theorem Prog.deletions_delEach {β : Type} (ks : List K) (b : β) :
    ((Prog.delEach ks : Prog K V Q Unit).bind fun _ => .ret b).deletions = ks := by
  induction ks with
  | nil => rfl
  | cons k ks ih => exact congrArg (List.cons k) ih

section Lawful

variable [DecidableEq K] {S : Client W K V Q} {selects : Q → K → Bool}
  {code : Op → Prog K V Q Answer}

/-- A pending deletion is carried out by the next command or stays pending. -/
theorem Prog.WillDelete.step (laws : S.Lawful selects) {k : K} {p : Prog K V Q Answer}
    (will : p.WillDelete k) (w : W) :
    S.get (p.step S w).2 k = none ∨ (p.step S w).1.WillDelete k := by
  cases will with
  | here =>
      left
      simp only [Prog.step, laws.get_del, Function.update_self]
  | later rest => exact .inr rest

/-- A key that is not bound stays so under every command but a write of it. -/
theorem Prog.get_step_none (laws : S.Lawful selects) {k : K} {p : Prog K V Q Answer} {w : W}
    (gone : S.get w k = none) (writes : ∀ v ttl next, p ≠ .set k v ttl next) :
    S.get (p.step S w).2 k = none := by
  cases p with
  | ret a => exact gone
  | get k' next => exact gone
  | query q next => exact gone
  | set k' v ttl next =>
      have other : k ≠ k' := by
        intro same
        subst same
        exact writes v ttl next rfl
      simp only [step, laws.get_set, Function.update_of_ne other, gone]
  | del k' next =>
      simp only [step, laws.get_del, Function.update_apply, gone, ite_self]

namespace Pool

/-- The next move is a write of `k`. -/
def Writes (c : Pool W K V Q Op Answer) (k : K) : Choice K → Prop
  | .work i => ∃ op v ttl next todo, c.workers[i]? = some ⟨some (op, .set k v ttl next), todo⟩
  | .expire _ => False

/-- No move of the schedule is a write of `k`. -/
def Unwritten (S : Client W K V Q) (code : Op → Prog K V Q Answer) (k : K) :
    Pool W K V Q Op Answer → List (Choice K) → Prop
  | _, [] => True
  | c, choice :: schedule => ¬ c.Writes k choice ∧ Unwritten S code k (c.step S code choice) schedule

/-- `k` is not bound, or worker `i` is about to delete it in the operation it is in. -/
def AboutToDelete (S : Client W K V Q) (i : Nat) (op : Op) (todo : List Op) (k : K)
    (c : Pool W K V Q Op Answer) : Prop :=
  S.get c.store k = none ∨ ∃ p, c.workers[i]? = some ⟨some (op, p), todo⟩ ∧ p.WillDelete k

omit [DecidableEq K] in
/-- A move that unbinds no less and takes no pending deletion from worker `i`. -/
theorem AboutToDelete.setWorker {i j : Nat} {op : Op} {todo : List Op} {k : K}
    {c : Pool W K V Q Op Answer} (about : AboutToDelete S i op todo k c)
    {t u : Worker K V Q Op Answer} (found : c.workers[j]? = some u)
    (notPending : j = i → ∀ p, u.running = some (op, p) → ¬ p.WillDelete k) {w : W}
    (gone : S.get c.store k = none → S.get w k = none) :
    AboutToDelete S i op todo k ({ c with store := w }.setWorker j t) := by
  rcases about with unbound | ⟨p, at_, will⟩
  · exact .inl (gone unbound)
  · have other : j ≠ i := by
      intro same
      rw [same, at_] at found
      cases found
      exact notPending same p rfl will
    exact .inr ⟨p, (getElem?_setWorker_ne other).trans at_, will⟩

theorem AboutToDelete.step (laws : S.Lawful selects) {i : Nat} {op : Op} {todo : List Op} {k : K}
    {c c' : Pool W K V Q Op Answer} {choice : Choice K} (about : AboutToDelete S i op todo k c)
    (unwritten : ¬ c.Writes k choice) (step : Step S code c choice c') :
    AboutToDelete S i op todo k c' := by
  cases step with
  | idle => exact about
  | begins found => exact about.setWorker found (by intro _ p h; cases h) id
  | ends found => exact about.setWorker found (by intro _ p h will; cases h; exact will.busy _ rfl) id
  | expires =>
      rcases about with unbound | pending
      · left
        simp only [laws.get_expire, Function.update_apply, unbound, ite_self]
      · exact .inr pending
  | @command j op' p todo' found busy =>
      have gone : S.get c.store k = none → S.get (p.step S c.store).2 k = none := by
        intro unbound
        apply Prog.get_step_none laws unbound
        intro v ttl next isSet
        subst isSet
        exact unwritten ⟨_, _, _, _, _, found⟩
      by_cases pending : j = i ∧ p.WillDelete k
      · obtain ⟨rfl, will⟩ := pending
        rcases about with unbound | ⟨p', at_, _⟩
        · exact .inl (gone unbound)
        · rw [found] at at_
          cases at_
          rcases will.step laws c.store with done | later
          · exact .inl done
          · exact .inr ⟨_, getElem?_setWorker_self found, later⟩
      · apply about.setWorker found _ gone
        intro same p' running will
        cases running
        exact pending ⟨same, will⟩

/-- A key about to be deleted is gone or still about to be, however the others
move, as long as nobody writes it. -/
theorem AboutToDelete.run (laws : S.Lawful selects) {i : Nat} {op : Op} {todo : List Op} {k : K}
    {c : Pool W K V Q Op Answer} (about : AboutToDelete S i op todo k c)
    {schedule : List (Choice K)} (unwritten : Unwritten S code k c schedule) :
    AboutToDelete S i op todo k (c.run S code schedule) := by
  induction schedule generalizing c with
  | nil => exact about
  | cons choice schedule ih =>
      exact ih (about.step laws unwritten.1 (step_cases c choice)) unwritten.2

end Pool

end Lawful

/-! ## Orders of operations -/

/-- The operations of one worker in an order of all. -/
def ofWorker (order : List (Nat × Op)) (i : Nat) : List Op :=
  (order.filter (·.1 == i)).map (·.2)

/-- An order of the operations that keeps each worker's own order. -/
def Interleaves (scripts : List (List Op)) (order : List (Nat × Op)) : Prop :=
  ∀ i, ofWorker order i = scripts.getD i []

theorem ofWorker_append (order order' : List (Nat × Op)) (i : Nat) :
    ofWorker (order ++ order') i = ofWorker order i ++ ofWorker order' i := by
  simp only [ofWorker, List.filter_append, List.map_append]

theorem ofWorker_cons_self (order : List (Nat × Op)) (i : Nat) (op : Op) :
    ofWorker ((i, op) :: order) i = op :: ofWorker order i := by
  simp [ofWorker]

theorem ofWorker_cons_ne (order : List (Nat × Op)) {i j : Nat} (other : j ≠ i) (op : Op) :
    ofWorker ((j, op) :: order) i = ofWorker order i := by
  simp [ofWorker, other]

/-- The first operation of an order is the first of its worker's. -/
theorem Interleaves.uncons {scripts : List (List Op)} {o : Nat × Op} {order : List (Nat × Op)}
    (interleaves : Interleaves scripts (o :: order)) :
    ∃ rest, scripts[o.1]? = some (o.2 :: rest) ∧ Interleaves (scripts.set o.1 rest) order := by
  obtain ⟨i, op⟩ := o
  have first := interleaves i
  rw [ofWorker_cons_self, List.getD_eq_getElem?_getD] at first
  cases found : scripts[i]? with
  | none =>
      rw [found] at first
      cases first
  | some script =>
      rw [found, Option.getD_some] at first
      refine ⟨ofWorker order i, by rw [← first], ?_⟩
      obtain ⟨inside, _⟩ := List.getElem?_eq_some_iff.mp found
      intro j
      by_cases same : i = j
      · subst same
        rw [List.getD_eq_getElem?_getD, List.getElem?_set_self inside, Option.getD_some]
      · have kept := interleaves j
        rw [ofWorker_cons_ne order same] at kept
        rw [kept, List.getD_eq_getElem?_getD, List.getD_eq_getElem?_getD,
          List.getElem?_set_ne same]

theorem Interleaves.nil {scripts : List (List Op)} (interleaves : Interleaves scripts []) :
    scripts.flatten = [] := by
  rw [List.flatten_eq_nil_iff]
  intro script member
  obtain ⟨i, found⟩ := List.mem_iff_getElem?.mp member
  have done : [] = scripts.getD i [] := interleaves i
  rw [List.getD_eq_getElem?_getD, found, Option.getD_some] at done
  exact done.symm

theorem length_flatten_set {scripts : List (List Op)} {i : Nat} {op : Op} {rest : List Op}
    (found : scripts[i]? = some (op :: rest)) :
    scripts.flatten.length = (scripts.set i rest).flatten.length + 1 := by
  induction scripts generalizing i with
  | nil => cases found
  | cons script scripts ih =>
      cases i with
      | zero =>
          obtain rfl : script = op :: rest := Option.some.inj found
          simp only [List.set_cons_zero, List.flatten_cons, List.length_append, List.length_cons]
          omega
      | succ i =>
          have later := ih found
          simp only [List.set_cons_succ, List.flatten_cons, List.length_append]
          omega

/-- The orders of so many operations that take the first one of some worker each time. -/
def interleavings : Nat → List (List Op) → List (List (Nat × Op))
  | 0, _ => [[]]
  | n + 1, scripts => (List.range scripts.length).flatMap fun i =>
      match scripts[i]? with
      | some (op :: rest) => (interleavings n (scripts.set i rest)).map ((i, op) :: ·)
      | _ => []

/-- An order that keeps each worker's own is one of these. -/
theorem Interleaves.mem_interleavings {scripts : List (List Op)} {order : List (Nat × Op)}
    (interleaves : Interleaves scripts order) :
    order ∈ interleavings scripts.flatten.length scripts := by
  induction order generalizing scripts with
  | nil =>
      rw [interleaves.nil]
      exact List.mem_singleton_self []
  | cons o order ih =>
      obtain ⟨rest, found, later⟩ := interleaves.uncons
      obtain ⟨inside, _⟩ := List.getElem?_eq_some_iff.mp found
      rw [length_flatten_set found, interleavings, List.mem_flatMap]
      refine ⟨o.1, List.mem_range.mpr inside, ?_⟩
      rw [found]
      exact List.mem_map_of_mem (ih later)

section Labelled

variable {N : Type} {entry : N → Nat × Op}

theorem ofWorker_map (nodes : List N) (i : Nat) :
    ofWorker (nodes.map entry) i =
      (nodes.filter fun x => (entry x).1 == i).map fun x => (entry x).2 := by
  simp only [ofWorker, List.filter_map, List.map_map, Function.comp_def]

/-- An order in which each worker has the operations of a queue is one of the queued. -/
theorem exists_of_ofWorker {order : List (Nat × Op)} {queues : Nat → List N}
    (own : ∀ i, ∀ x ∈ queues i, (entry x).1 = i)
    (same : ∀ i, ofWorker order i = (queues i).map fun x => (entry x).2) :
    ∃ nodes : List N, nodes.map entry = order ∧
      ∀ i, (nodes.filter fun x => (entry x).1 == i) = queues i := by
  induction order generalizing queues with
  | nil => exact ⟨[], rfl, fun i => (List.map_eq_nil_iff.mp (same i).symm).symm⟩
  | cons o order ih =>
      obtain ⟨i, op⟩ := o
      have first := same i
      rw [ofWorker_cons_self] at first
      obtain ⟨x, rest, queued, op_, rest_⟩ := List.map_eq_cons_iff.mp first.symm
      have worker : (entry x).1 = i := own i x (queued ▸ List.mem_cons_self)
      have own' : ∀ j, ∀ y ∈ Function.update queues i rest j, (entry y).1 = j := by
        intro j y member
        by_cases here : j = i
        · subst here
          rw [Function.update_self] at member
          exact own j y (queued ▸ List.mem_cons_of_mem x member)
        · rw [Function.update_of_ne here] at member
          exact own j y member
      have same' : ∀ j, ofWorker order j =
          (Function.update queues i rest j).map fun y => (entry y).2 := by
        intro j
        by_cases here : j = i
        · subst here
          rw [Function.update_self, rest_]
        · have kept := same j
          rw [ofWorker_cons_ne order (Ne.symm here)] at kept
          rw [Function.update_of_ne here, kept]
      obtain ⟨nodes, entries, filtered⟩ := ih own' same'
      refine ⟨x :: nodes, ?_, fun j => ?_⟩
      · rw [List.map_cons, entries, ← worker, ← op_]
      · by_cases here : j = i
        · subst here
          rw [List.filter_cons_of_pos (by simp [worker]), filtered, Function.update_self, queued]
        · have elsewhere : ¬ i = j := fun same => here same.symm
          rw [List.filter_cons_of_neg (by simp [worker, elsewhere]), filtered,
            Function.update_of_ne here]

/-- An order with the operations of some labelled ones, worker by worker, is an order
of these. -/
theorem exists_relabel {order : List (Nat × Op)} {nodes₀ : List N}
    (same : ∀ i, ofWorker order i = ofWorker (nodes₀.map entry) i) :
    ∃ nodes : List N, nodes.map entry = order ∧ ∀ i,
      (nodes.filter fun x => (entry x).1 == i) = nodes₀.filter fun x => (entry x).1 == i := by
  refine exists_of_ofWorker (fun i x member => ?_) fun i => ?_
  · exact beq_iff_eq.mp (List.mem_filter.mp member).2
  · rw [same, ofWorker_map]

/-- Lists with the same part of each worker are permutations of one another. -/
theorem perm_of_parts {nodes nodes₀ : List N} (parts : ∀ i,
    (nodes.filter fun x => (entry x).1 == i) = nodes₀.filter fun x => (entry x).1 == i) :
    nodes.Perm nodes₀ := by
  classical
  rw [List.perm_iff_count]
  intro x
  have counted (l : List N) :
      (l.filter fun y => (entry y).1 == (entry x).1).count x = l.count x :=
    List.count_filter (beq_self_eq_true (entry x).1)
  rw [← counted nodes, parts, counted]

/-- What holds of the operations of each worker, and of any two of different workers,
holds of all. -/
theorem pairwise_of_parts (entry : N → Nat × Op) {related : N → N → Prop} {nodes : List N}
    (apart : ∀ x y, (entry x).1 ≠ (entry y).1 → related x y)
    (parts : ∀ i, (nodes.filter fun x => (entry x).1 == i).Pairwise related) :
    nodes.Pairwise related := by
  rw [List.pairwise_iff_forall_sublist]
  intro x y sublist
  by_cases same : (entry x).1 = (entry y).1
  · have part := sublist.filter fun z => (entry z).1 == (entry x).1
    have both : ([x, y].filter fun z => (entry z).1 == (entry x).1) = [x, y] := by
      simp [same]
    rw [both] at part
    exact List.pairwise_iff_forall_sublist.mp (parts (entry x).1) part
  · exact apart x y same

end Labelled

/-- The operations of a worker that have not taken effect, if each takes effect
with its last command. -/
def Worker.pending : Worker K V Q Op Answer → List Op
  | ⟨none, todo⟩ => todo
  | ⟨some (_, .ret _), todo⟩ => todo
  | ⟨some (op, _), todo⟩ => op :: todo

theorem Worker.pending_busy {op : Op} {p : Prog K V Q Answer} (busy : p.Busy) (todo : List Op) :
    Worker.pending ⟨some (op, p), todo⟩ = op :: todo := by
  cases p with
  | ret a => exact absurd rfl (busy a)
  | set k v ttl next => rfl
  | get k next => rfl
  | del k next => rfl
  | query q next => rfl

/-- The operation that takes effect with the next move of a worker, if each is one
command at most: it issues its command, or is over without one. -/
def Worker.effective (code : Op → Prog K V Q Answer) : Worker K V Q Op Answer → Option Op
  | ⟨none, []⟩ => none
  | ⟨none, op :: _⟩ => if (code op).Busy then none else some op
  | ⟨some (op, p), _⟩ => if p.Busy then some op else none

namespace Pool

def pending (c : Pool W K V Q Op Answer) (i : Nat) : List Op :=
  match c.workers[i]? with
  | none => []
  | some t => t.pending

theorem pending_of_found {c : Pool W K V Q Op Answer} {i : Nat} {t : Worker K V Q Op Answer}
    (found : c.workers[i]? = some t) : c.pending i = t.pending := by
  simp only [pending, found]

theorem pending_setWorker_ne {c : Pool W K V Q Op Answer} {i j : Nat}
    {t : Worker K V Q Op Answer} (other : i ≠ j) : (c.setWorker i t).pending j = c.pending j := by
  simp only [pending, getElem?_setWorker_ne other]

theorem pending_start (w : W) (scripts : List (List Op)) (i : Nat) :
    (start w scripts : Pool W K V Q Op Answer).pending i = scripts.getD i [] := by
  simp only [pending, start, List.getElem?_map, List.getD_eq_getElem?_getD]
  cases scripts[i]? with
  | none => rfl
  | some todo => rfl

theorem Finished.pending {c : Pool W K V Q Op Answer} (finished : c.Finished) (i : Nat) :
    c.pending i = [] := by
  cases found : c.workers[i]? with
  | none => simp only [Pool.pending, found]
  | some t =>
      rw [pending_of_found found, finished t (List.mem_of_getElem? found)]
      rfl

end Pool

end Keyed
