import SipXsbc.Keyed.Interleaving
import SipXsbc.Keyed.Script
import Mathlib.Data.List.Induction

/-!
# Linearization of concurrent runs

What can be seen of a pool from outside is its `history`: the operations called
and answered, and the keys that expire. An explanation of a history adds acts
between the call and the answer of each operation (`Behaves`), such that the
acts and the expiries, in the order they stand in, are a run of a map of records
(`Follows`). One act for each operation is linearizability in the usual sense;
an operation that is not atomic has more than one, and `expands` says which.

* `Acts` is what has to be shown of single commands.
* `Acts.run`: then every history has an explanation, and the store is left
  holding the map that the acts leave.
-/

namespace Keyed

variable {W K V Q R Op Answer : Type}

/-- An operation called or answered by a worker, one of its acts, or a key that
expires. -/
inductive Event (K Op Answer : Type)
  | call (i : Nat) (op : Op)
  | act (i : Nat) (op : Op) (answer : Answer)
  | answer (i : Nat) (op : Op) (answer : Answer)
  | expired (k : K)

namespace Event

/-- An act is not seen from outside. -/
def visible : Event K Op Answer → Bool
  | .act _ _ _ => false
  | _ => true

def worker : Event K Op Answer → Option Nat
  | .call i _ => some i
  | .act i _ _ => some i
  | .answer i _ _ => some i
  | .expired _ => none

end Event

/-- Acts of one worker. -/
def actsOf (i : Nat) (acts : List (Op × Answer)) : List (Event K Op Answer) :=
  acts.map fun o => .act i o.1 o.2

@[simp] theorem actsOf_nil (i : Nat) : (actsOf i [] : List (Event K Op Answer)) = [] := rfl

theorem actsOf_snoc (i : Nat) (acts : List (Op × Answer)) (o : Op × Answer) :
    (actsOf i (acts ++ [o]) : List (Event K Op Answer)) = actsOf i acts ++ [.act i o.1 o.2] := by
  simp only [actsOf, List.map_append, List.map_cons, List.map_nil]

theorem filter_visible_actsOf (i : Nat) (acts : List (Op × Answer)) :
    (actsOf i acts : List (Event K Op Answer)).filter Event.visible = [] := by
  rw [List.filter_eq_nil_iff]
  intro e member
  obtain ⟨o, _, rfl⟩ := List.mem_map.mp member
  simp only [Event.visible, Bool.false_eq_true, not_false_eq_true]

/-! ## Histories -/

namespace Pool

/-- What is seen of a move. -/
def event (c : Pool W K V Q Op Answer) : Choice K → List (Event K Op Answer)
  | .work i =>
    match c.workers[i]? with
    | some ⟨none, op :: _⟩ => [.call i op]
    | some ⟨some (op, .ret a), _⟩ => [.answer i op a]
    | _ => []
  | .expire k => [.expired k]

def history (S : Client W K V Q) (code : Op → Prog K V Q Answer) :
    Pool W K V Q Op Answer → List (Choice K) → List (Event K Op Answer)
  | _, [] => []
  | c, choice :: schedule => c.event choice ++ history S code (c.step S code choice) schedule

theorem event_busy {c : Pool W K V Q Op Answer} {i : Nat} {op : Op} {p : Prog K V Q Answer}
    {todo : List Op} (found : c.workers[i]? = some ⟨some (op, p), todo⟩) (busy : p.Busy) :
    c.event (.work i) = [] := by
  simp only [event, found]
  split
  · rename_i same
    cases same
  · rename_i same
    cases same
    exact absurd rfl (busy _)
  · rfl

/-- Nothing is seen of a worker that has nothing to do. -/
theorem event_idle {c : Pool W K V Q Op Answer} {i : Nat}
    (idle : ∀ t, c.workers[i]? = some t → t = ⟨none, []⟩) : c.event (.work i) = [] := by
  cases found : c.workers[i]? with
  | none => simp only [event, found]
  | some t =>
      obtain rfl := idle t found
      simp only [event, found]

end Pool

/-! ## Explanations -/

/-- Acts with which an operation may begin: with more they make it up. -/
def Begins (expands : Op → List (Op × Answer) → Answer → Prop) (op : Op)
    (acts : List (Op × Answer)) : Prop :=
  ∃ rest a, expands op (acts ++ rest) a

theorem Begins.left {expands : Op → List (Op × Answer) → Answer → Prop} {op : Op}
    {acts more : List (Op × Answer)} (begins : Begins expands op (acts ++ more)) :
    Begins expands op acts := by
  obtain ⟨rest, a, expands⟩ := begins
  rw [List.append_assoc] at expands
  exact ⟨more ++ rest, a, expands⟩

/-- Worker `i` calls one operation after another and answers each after acts
that make it up: the operation it is in, if any, with its acts so far. -/
inductive Behaves (expands : Op → List (Op × Answer) → Answer → Prop) (i : Nat) :
    List (Event K Op Answer) → Option (Op × List (Op × Answer)) → Prop
  | start : Behaves expands i [] none
  | other {es : List (Event K Op Answer)} {inside : Option (Op × List (Op × Answer))}
    {e : Event K Op Answer} :
    Behaves expands i es inside → e.worker ≠ some i → Behaves expands i (es ++ [e]) inside
  | call {es : List (Event K Op Answer)} {op : Op} :
    Behaves expands i es none → Behaves expands i (es ++ [.call i op]) (some (op, []))
  | act {es : List (Event K Op Answer)} {op : Op} {acts : List (Op × Answer)} {o : Op}
    {a : Answer} :
    Behaves expands i es (some (op, acts)) → Begins expands op (acts ++ [(o, a)]) →
    Behaves expands i (es ++ [.act i o a]) (some (op, acts ++ [(o, a)]))
  | answer {es : List (Event K Op Answer)} {op : Op} {acts : List (Op × Answer)} {a : Answer} :
    Behaves expands i es (some (op, acts)) → expands op acts a →
    Behaves expands i (es ++ [.answer i op a]) none

/-- The acts and the expiries take the map from `m₀` to `m`. -/
inductive Follows [DecidableEq K] (spec : MapSpec K R Op Answer) (m₀ : K → Option R) :
    List (Event K Op Answer) → (K → Option R) → Prop
  | start : Follows spec m₀ [] m₀
  | act {es : List (Event K Op Answer)} {m : K → Option R} {i : Nat} {op : Op} {a : Answer} :
    Follows spec m₀ es m → spec.answers op m a →
    Follows spec m₀ (es ++ [.act i op a]) (spec.next op m)
  | call {es : List (Event K Op Answer)} {m : K → Option R} {i : Nat} {op : Op} :
    Follows spec m₀ es m → Follows spec m₀ (es ++ [.call i op]) m
  | answer {es : List (Event K Op Answer)} {m : K → Option R} {i : Nat} {op : Op} {a : Answer} :
    Follows spec m₀ es m → Follows spec m₀ (es ++ [.answer i op a]) m
  | expired {es : List (Event K Op Answer)} {m : K → Option R} {k : K} :
    Follows spec m₀ es m → Follows spec m₀ (es ++ [.expired k]) (Function.update m k none)

/-- `es` explains a history: it shows what the history shows, every worker
behaves, and the acts take the map from `m₀` to `m`. -/
structure Explains [DecidableEq K] (spec : MapSpec K R Op Answer)
    (expands : Op → List (Op × Answer) → Answer → Prop) (m₀ : K → Option R)
    (history : List (Event K Op Answer)) (es : List (Event K Op Answer)) (m : K → Option R) :
    Prop where
  shows : es.filter Event.visible = history
  behaves : ∀ i, ∃ inside, Behaves expands i es inside
  follows : Follows spec m₀ es m

theorem Behaves.acts {expands : Op → List (Op × Answer) → Answer → Prop} {i : Nat}
    {es : List (Event K Op Answer)} {op : Op} {done : List (Op × Answer)}
    (inside : Behaves expands i es (some (op, done))) {acts : List (Op × Answer)}
    (begins : Begins expands op (done ++ acts)) :
    Behaves expands i (es ++ actsOf i acts) (some (op, done ++ acts)) := by
  induction acts using List.reverseRecOn with
  | nil => simpa only [actsOf_nil, List.append_nil] using inside
  | append_singleton acts o ih =>
      rw [← List.append_assoc] at begins ⊢
      rw [actsOf_snoc, ← List.append_assoc]
      exact (ih begins.left).act begins

theorem Behaves.others {expands : Op → List (Op × Answer) → Answer → Prop} {i : Nat}
    {es : List (Event K Op Answer)} {inside : Option (Op × List (Op × Answer))}
    (behaves : Behaves expands i es inside) {es' : List (Event K Op Answer)}
    (others : ∀ e ∈ es', e.worker ≠ some i) : Behaves expands i (es ++ es') inside := by
  induction es' using List.reverseRecOn with
  | nil => simpa only [List.append_nil] using behaves
  | append_singleton es' e ih =>
      rw [← List.append_assoc]
      refine .other (ih ?_) (others e (List.mem_append_right es' List.mem_cons_self))
      exact fun e' member => others e' (List.mem_append_left [e] member)

theorem worker_of_mem_actsOf {i : Nat} {acts : List (Op × Answer)} {e : Event K Op Answer}
    (member : e ∈ actsOf i acts) : e.worker = some i := by
  obtain ⟨o, _, rfl⟩ := List.mem_map.mp member
  rfl

/-! ## The map under acts -/

/-- Acts, each with an answer the map may give, take `m` to `m'`. -/
inductive MapSpec.Performs (spec : MapSpec K R Op Answer) (m : K → Option R) :
    List (Op × Answer) → (K → Option R) → Prop
  | none : spec.Performs m [] m
  | more {acts : List (Op × Answer)} {m' : K → Option R} {op : Op} {a : Answer} :
    spec.Performs m acts m' → spec.answers op m' a →
    spec.Performs m (acts ++ [(op, a)]) (spec.next op m')

theorem MapSpec.Performs.one {spec : MapSpec K R Op Answer} {m : K → Option R} {op : Op}
    {a : Answer} (answers : spec.answers op m a) :
    spec.Performs m [(op, a)] (spec.next op m) := .more .none answers

theorem Follows.acts [DecidableEq K] {spec : MapSpec K R Op Answer} {m₀ m m' : K → Option R}
    {es : List (Event K Op Answer)} (follows : Follows spec m₀ es m) (i : Nat)
    {acts : List (Op × Answer)} (performs : spec.Performs m acts m') :
    Follows spec m₀ (es ++ actsOf i acts) m' := by
  induction performs with
  | none => simpa only [actsOf_nil, List.append_nil] using follows
  | more _ answers ih =>
      rw [actsOf_snoc, ← List.append_assoc]
      exact ih.act answers

/-! ## Linearization points -/

namespace Pool

/-- What has to be shown of single commands. `stage op acts p` says that `p` is
what is left of `op` after `acts`. -/
structure Acts (S : Client W K V Q) (code : Op → Prog K V Q Answer) (encode : R → V) (key : R → K)
    (spec : MapSpec K R Op Answer) (expands : Op → List (Op × Answer) → Answer → Prop)
    (stage : Op → List (Op × Answer) → Prog K V Q Answer → Prop) : Prop where
  /-- The acts of an operation before its first command leave what is stored as it is. -/
  begins : ∀ op, ∃ acts, stage op acts (code op) ∧
    ∀ w m, Represents S encode key w m → spec.Performs m acts m
  command : ∀ op acts p w m, stage op acts p → p.Busy → Represents S encode key w m →
    ∃ more m', spec.Performs m more m' ∧ stage op (acts ++ more) (p.step S w).1 ∧
      Represents S encode key (p.step S w).2 m'
  ends : ∀ op acts a, stage op acts (.ret a) → expands op acts a
  /-- What is done at a stage is a beginning of the operation. -/
  within : ∀ op acts p, stage op acts p → Begins expands op acts

/-- The program a worker is in is what is left after the acts it has done. -/
inductive Inside (stage : Op → List (Op × Answer) → Prog K V Q Answer → Prop) :
    Option (Op × Prog K V Q Answer) → Option (Op × List (Op × Answer)) → Prop
  | out : Inside stage none none
  | within {op : Op} {acts : List (Op × Answer)} {p : Prog K V Q Answer} :
    stage op acts p → Inside stage (some (op, p)) (some (op, acts))

/-- The program worker `i` is in. -/
def running (c : Pool W K V Q Op Answer) (i : Nat) : Option (Op × Prog K V Q Answer) :=
  c.workers[i]?.bind (·.running)

theorem running_of_found {c : Pool W K V Q Op Answer} {i : Nat} {t : Worker K V Q Op Answer}
    (found : c.workers[i]? = some t) : c.running i = t.running := by
  rw [running, found]
  rfl

theorem running_setWorker_ne {c : Pool W K V Q Op Answer} {i j : Nat}
    {t : Worker K V Q Op Answer} (other : i ≠ j) : (c.setWorker i t).running j = c.running j := by
  rw [running, getElem?_setWorker_ne other]
  rfl

theorem running_start (w : W) (scripts : List (List Op)) (i : Nat) :
    (start w scripts : Pool W K V Q Op Answer).running i = none := by
  simp only [running, start, List.getElem?_map]
  cases scripts[i]? with
  | none => rfl
  | some todo => rfl

variable [DecidableEq K]

/-- The pool has an explanation of what was seen so far, and is where it says. -/
structure Explained (S : Client W K V Q) (encode : R → V) (key : R → K)
    (spec : MapSpec K R Op Answer) (expands : Op → List (Op × Answer) → Answer → Prop)
    (stage : Op → List (Op × Answer) → Prog K V Q Answer → Prop) (m₀ : K → Option R)
    (es : List (Event K Op Answer)) (c : Pool W K V Q Op Answer) (m : K → Option R) : Prop where
  behaves : ∀ i, ∃ inside, Behaves expands i es inside ∧ Inside stage (c.running i) inside
  follows : Follows spec m₀ es m
  holds : Represents S encode key c.store m

section Explained

variable {S : Client W K V Q} {code : Op → Prog K V Q Answer} {selects : Q → K → Bool}
  {encode : R → V} {key : R → K} {spec : MapSpec K R Op Answer}
  {expands : Op → List (Op × Answer) → Answer → Prop}
  {stage : Op → List (Op × Answer) → Prog K V Q Answer → Prop} {m₀ m : K → Option R}
  {es : List (Event K Op Answer)} {c : Pool W K V Q Op Answer}

theorem Explained.start {w : W} (holds : Represents S encode key w m₀) (scripts : List (List Op)) :
    Explained S encode key spec expands stage m₀ [] (Pool.start w scripts) m₀ where
  behaves i := by
    rw [running_start]
    exact ⟨none, .start, .out⟩
  follows := .start
  holds := holds

theorem Explained.inside (held : Explained S encode key spec expands stage m₀ es c m) {i : Nat}
    {t : Worker K V Q Op Answer} (found : c.workers[i]? = some t) :
    ∃ inside, Behaves expands i es inside ∧ Inside stage t.running inside := by
  rw [← running_of_found found]
  exact held.behaves i

/-- Worker `i` moves on, and the explanation with it. -/
theorem Explained.move (held : Explained S encode key spec expands stage m₀ es c m) {i : Nat}
    {t u : Worker K V Q Op Answer} (found : c.workers[i]? = some u) {w : W}
    {seen : List (Event K Op Answer)} {m' : K → Option R}
    (own : ∀ e ∈ seen, e.worker = some i) (follows : Follows spec m₀ (es ++ seen) m')
    (holds : Represents S encode key w m')
    (moves : ∃ inside, Behaves expands i (es ++ seen) inside ∧ Inside stage t.running inside) :
    Explained S encode key spec expands stage m₀ (es ++ seen)
      ({ c with store := w }.setWorker i t) m' where
  follows := follows
  holds := holds
  behaves j := by
    by_cases same : i = j
    · subst same
      have found' : ({ c with store := w }.setWorker i t).workers[i]? = some t :=
        getElem?_setWorker_self (c := { c with store := w }) found
      rw [running_of_found found']
      exact moves
    · obtain ⟨inside, behaves, at_⟩ := held.behaves j
      refine ⟨inside, behaves.others ?_, ?_⟩
      · intro e member isJ
        rw [own e member] at isJ
        exact same (Option.some.inj isJ)
      · rw [running_setWorker_ne same]
        exact at_

/-- One step adds to the explanation what is seen of it, with the acts it is. -/
theorem Acts.step (laws : S.Lawful selects) (acts : Acts S code encode key spec expands stage)
    (held : Explained S encode key spec expands stage m₀ es c m) (choice : Choice K) :
    ∃ seen m', seen.filter Event.visible = c.event choice ∧
      Explained S encode key spec expands stage m₀ (es ++ seen) (c.step S code choice) m' := by
  have step : Step S code c choice (c.step S code choice) := step_cases c choice
  generalize c.step S code choice = c' at step ⊢
  cases step with
  | @begins i op todo found =>
      obtain ⟨first, at_, performs⟩ := acts.begins op
      obtain ⟨inside, behaves, outside⟩ := held.inside found
      cases outside
      refine ⟨.call i op :: actsOf i first, m, ?_, ?_⟩
      · simp only [List.filter_cons, Event.visible, filter_visible_actsOf, event, found, if_true]
      · refine held.move found ?_ ?_ held.holds ⟨_, ?_, .within at_⟩
        · intro e member
          rcases List.mem_cons.mp member with rfl | member
          · rfl
          · exact worker_of_mem_actsOf member
        · rw [List.append_cons]
          exact held.follows.call.acts i (performs _ m held.holds)
        · rw [List.append_cons]
          exact behaves.call.acts (acts.within _ _ _ at_)
  | @ends i op a todo found =>
      obtain ⟨inside, behaves, within⟩ := held.inside found
      cases within with
      | within at_ =>
          refine ⟨[.answer i op a], m, by simp only [event, found]; rfl, ?_⟩
          refine held.move found ?_ held.follows.answer held.holds
            ⟨none, behaves.answer (acts.ends _ _ _ at_), .out⟩
          intro e member
          rw [List.mem_singleton.mp member]
          rfl
  | @command i op p todo found busy =>
      obtain ⟨inside, behaves, within⟩ := held.inside found
      cases within with
      | within at_ =>
          obtain ⟨more, m', performs, next, holds⟩ := acts.command _ _ _ _ m at_ busy held.holds
          refine ⟨actsOf i more, m', ?_, ?_⟩
          · rw [filter_visible_actsOf, event_busy found busy]
          · exact held.move found (fun e member => worker_of_mem_actsOf member)
              (held.follows.acts i performs) holds
              ⟨_, behaves.acts (acts.within _ _ _ next), .within next⟩
  | @expires k =>
      refine ⟨[.expired k], Function.update m k none, rfl, ?_, held.follows.expired,
        held.holds.expire laws k⟩
      intro i
      obtain ⟨inside, behaves, at_⟩ := held.behaves i
      refine ⟨inside, behaves.other ?_, at_⟩
      intro isWorker
      cases isWorker
  | @idle i idle =>
      exact ⟨[], m, (event_idle idle).symm, by simpa only [List.append_nil] using held⟩

/-- Every run has an explanation. -/
theorem Acts.run (laws : S.Lawful selects) (acts : Acts S code encode key spec expands stage)
    (held : Explained S encode key spec expands stage m₀ es c m) (schedule : List (Choice K)) :
    ∃ seen m', seen.filter Event.visible = c.history S code schedule ∧
      Explained S encode key spec expands stage m₀ (es ++ seen) (c.run S code schedule) m' := by
  induction schedule generalizing c es m with
  | nil =>
      rw [← List.append_nil es] at held
      exact ⟨[], m, rfl, held⟩
  | cons choice schedule ih =>
      obtain ⟨now, m₁, shows, held₁⟩ := acts.step laws held choice
      obtain ⟨seen, m', shows', held'⟩ := ih held₁
      refine ⟨now ++ seen, m', ?_, ?_⟩
      · rw [List.filter_append, shows, shows']
        rfl
      · rw [← List.append_assoc]
        exact held'

/-- **Every history is explained.** From a store that holds `m₀`, whatever the
schedule, and the store is left holding the map that the acts leave. -/
theorem Acts.explains (laws : S.Lawful selects) (acts : Acts S code encode key spec expands stage)
    {w : W} (holds : Represents S encode key w m₀) (scripts : List (List Op))
    (schedule : List (Choice K)) :
    ∃ es m, Explains spec expands m₀ ((Pool.start w scripts).history S code schedule) es m ∧
      Represents S encode key ((Pool.start w scripts).run S code schedule).store m := by
  obtain ⟨es, m, shows, held⟩ := acts.run laws (.start holds scripts) schedule
  rw [List.nil_append] at held
  refine ⟨es, m, ⟨shows, ?_, held.follows⟩, held.holds⟩
  intro i
  obtain ⟨inside, behaves, _⟩ := held.behaves i
  exact ⟨inside, behaves⟩

end Explained

/-! ## Operations that are one command, or a command and deletions -/

/-- What is left of an operation: all of it, nothing but its answer, or deletions
that are the rest of its acts. -/
inductive Stage (code : Op → Prog K V Q Answer)
    (expands : Op → List (Op × Answer) → Answer → Prop) (removal : K → Op × Answer) :
    Op → List (Op × Answer) → Prog K V Q Answer → Prop
  | begun {op : Op} : (code op).Busy → Stage code expands removal op [] (code op)
  | answered {op : Op} {acts : List (Op × Answer)} {a : Answer} :
    expands op acts a → Stage code expands removal op acts (.ret a)
  | removing {op : Op} {acts : List (Op × Answer)} {ks : List K} {a : Answer} :
    expands op (acts ++ ks.map removal) a →
    Stage code expands removal op acts ((Prog.delEach ks).bind fun _ => .ret a)

/-- Such operations need only be looked at up to their first command. -/
theorem Acts.of_first {S : Client W K V Q} {code : Op → Prog K V Q Answer}
    {selects : Q → K → Bool} {encode : R → V} {key : R → K} {spec : MapSpec K R Op Answer}
    {expands : Op → List (Op × Answer) → Answer → Prop} {removal : K → Op × Answer}
    (laws : S.Lawful selects)
    (removes : ∀ k m, spec.answers (removal k).1 m (removal k).2 ∧
      spec.next (removal k).1 m = Function.update m k none)
    (expandable : ∀ op, ∃ acts a, expands op acts a)
    (begins : ∀ op, ¬ (code op).Busy →
      ∃ acts, Stage code expands removal op acts (code op) ∧ ∀ m, spec.Performs m acts m)
    (first : ∀ op w m, (code op).Busy → Represents S encode key w m →
      ∃ acts m', spec.Performs m acts m' ∧
        Stage code expands removal op acts ((code op).step S w).1 ∧
        Represents S encode key ((code op).step S w).2 m') :
    Acts S code encode key spec expands (Stage code expands removal) where
  begins op := by
    by_cases busy : (code op).Busy
    · exact ⟨[], .begun busy, fun _ m _ => .none⟩
    · obtain ⟨acts, at_, performs⟩ := begins op busy
      exact ⟨acts, at_, fun _ m _ => performs m⟩
  command op acts p w m stage busy rep := by
    cases stage with
    | begun _ => exact first op w m busy rep
    | answered _ => exact absurd rfl (busy _)
    | @removing _ ks a rest =>
        cases ks with
        | nil => exact absurd rfl (busy a)
        | cons k ks =>
            obtain ⟨answers, unbinds⟩ := removes k m
            have performs := MapSpec.Performs.one answers
            rw [unbinds] at performs
            rw [List.map_cons, List.append_cons] at rest
            exact ⟨[removal k], _, performs, .removing rest, rep.del laws k⟩
  ends op acts a stage := by
    generalize shape : (Prog.ret a : Prog K V Q Answer) = p at stage
    cases stage with
    | begun busy => exact absurd shape.symm (busy a)
    | answered expands =>
        cases shape
        exact expands
    | @removing _ ks a rest =>
        cases ks with
        | nil =>
            cases shape
            rwa [List.map_nil, List.append_nil] at rest
        | cons k ks => cases shape
  within op acts p stage := by
    cases stage with
    | begun _ => exact expandable op
    | answered expands => exact ⟨[], _, by rwa [List.append_nil]⟩
    | removing rest => exact ⟨_, _, rest⟩

end Pool

end Keyed
