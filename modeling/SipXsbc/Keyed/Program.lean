import Mathlib.Logic.Function.Basic
import Mathlib.Data.List.Basic

/-!
# Programs over a keyed store

A `Client` is a store of values under keys as its user sees it: commands that
write, read and delete one key, a query that reads many, and the expiry of a
key, which the store does by itself. `Client.Lawful` says that the commands
act as a finite map. A `Prog` is a computation that issues such commands one
by one and goes on with their answers.

* `Prog.step` runs one command that succeeds; interleavings are built on it.
* `Prog.exec` runs a program to its end against what the environment does
  before each command (`Moment`): keys that expire and a write that fails.
* `Prog.perform` is `exec` with the expiries that are left at the end.
-/

namespace Keyed

/-- A store with workspaces `W`, keys `K`, values `V` and queries `Q`. -/
structure Client (W K V Q : Type) where
  set : W → K → V → Int → W
  get : W → K → Option V
  del : W → K → W
  expire : W → K → W
  query : W → Q → List V

variable {W K V Q α β : Type}

/-- The map laws. A query answers the value of each live key it selects once,
in an order of the store's own. -/
structure Client.Lawful [DecidableEq K] (S : Client W K V Q) (selects : Q → K → Bool) : Prop where
  get_set : ∀ w k v ttl, S.get (S.set w k v ttl) = Function.update (S.get w) k (some v)
  get_del : ∀ w k, S.get (S.del w k) = Function.update (S.get w) k none
  get_expire : ∀ w k, S.get (S.expire w k) = Function.update (S.get w) k none
  query_live : ∀ w q, ∃ keys : List K, keys.Nodup ∧
    (∀ k, k ∈ keys ↔ selects q k = true ∧ (S.get w k).isSome) ∧
    S.query w q = keys.filterMap (S.get w)

/-- A program: issue a command, go on with its answer. A write answers whether
the store took it. -/
inductive Prog (K V Q α : Type) : Type
  | ret (a : α)
  | set (k : K) (v : V) (ttl : Int) (next : Bool → Prog K V Q α)
  | get (k : K) (next : Option V → Prog K V Q α)
  | del (k : K) (next : Prog K V Q α)
  | query (q : Q) (next : List V → Prog K V Q α)

namespace Prog

def bind : Prog K V Q α → (α → Prog K V Q β) → Prog K V Q β
  | .ret a, f => f a
  | .set k v ttl next, f => .set k v ttl fun ok => (next ok).bind f
  | .get k next, f => .get k fun v => (next v).bind f
  | .del k next, f => .del k (next.bind f)
  | .query q next, f => .query q fun vs => (next vs).bind f

instance : Monad (Prog K V Q) where
  pure := .ret
  bind := bind

@[simp] theorem pure_eq (a : α) : (pure a : Prog K V Q α) = .ret a := rfl

@[simp] theorem bind_eq (p : Prog K V Q α) (f : α → Prog K V Q β) : p >>= f = p.bind f := rfl

/-- Delete each key, in order. -/
def delEach : List K → Prog K V Q Unit
  | [] => .ret ()
  | k :: ks => .del k (delEach ks)

/-- One command, which succeeds. -/
def step (S : Client W K V Q) : Prog K V Q α → W → Prog K V Q α × W
  | .ret a, w => (.ret a, w)
  | .set k v ttl next, w => (next true, S.set w k v ttl)
  | .get k next, w => (next (S.get w k), w)
  | .del k next, w => (next, S.del w k)
  | .query q next, w => (next (S.query w q), w)

end Prog

/-! ## The environment of a run -/

/-- What the environment does just before one command: the keys that expire,
and whether the store takes the command if it is a write. -/
structure Moment (K : Type) where
  expired : List K
  accepts : Bool
  deriving DecidableEq

/-- Nothing expires and the write is taken. -/
def Moment.quiet : Moment K := ⟨[], true⟩

/-- The keys that expire over several moments, in order. -/
def expiries (ms : List (Moment K)) : List K := ms.flatMap (·.expired)

@[simp] theorem expiries_nil : expiries ([] : List (Moment K)) = [] := rfl

@[simp] theorem expiries_cons (m : Moment K) (ms : List (Moment K)) :
    expiries (m :: ms) = m.expired ++ expiries ms := rfl

/-- The first moment and the rest make up all expiries, also when no moment is
left and the environment is quiet. -/
theorem expiries_head_tail (ms : List (Moment K)) :
    (ms.headD .quiet).expired ++ expiries ms.tail = expiries ms := by
  cases ms with
  | nil => rfl
  | cons m ms => rfl

/-- Every write of the run is taken. -/
def AllAccepted (ms : List (Moment K)) : Prop := ∀ m ∈ ms, m.accepts = true

instance (ms : List (Moment K)) : Decidable (AllAccepted ms) :=
  inferInstanceAs (Decidable (∀ m ∈ ms, m.accepts = true))

theorem AllAccepted.tail {ms : List (Moment K)} (h : AllAccepted ms) : AllAccepted ms.tail :=
  fun m hm => h m (List.mem_of_mem_tail hm)

theorem AllAccepted.head {ms : List (Moment K)} (h : AllAccepted ms) :
    (ms.headD .quiet).accepts = true := by
  cases ms with
  | nil => rfl
  | cons m ms => exact h m List.mem_cons_self

/-- Let keys expire one after the other. -/
def Client.expireAll (S : Client W K V Q) (w : W) (ks : List K) : W := ks.foldl S.expire w

@[simp] theorem Client.expireAll_nil (S : Client W K V Q) (w : W) : S.expireAll w [] = w := rfl

/-- Drop the bindings of some keys. -/
def eraseAll [DecidableEq K] (m : K → Option V) (ks : List K) : K → Option V :=
  fun k => if k ∈ ks then none else m k

@[simp] theorem eraseAll_nil [DecidableEq K] (m : K → Option V) : eraseAll m [] = m := by
  funext k
  simp [eraseAll]

theorem eraseAll_cons [DecidableEq K] (m : K → Option V) (k : K) (ks : List K) :
    eraseAll m (k :: ks) = eraseAll (Function.update m k none) ks := by
  funext k'
  by_cases h : k' = k <;> simp [eraseAll, h]

theorem eraseAll_append [DecidableEq K] (m : K → Option V) (ks ls : List K) :
    eraseAll m (ks ++ ls) = eraseAll (eraseAll m ks) ls := by
  funext k
  by_cases h : k ∈ ls <;> simp [eraseAll, h]

theorem Client.Lawful.get_expireAll [DecidableEq K] {S : Client W K V Q}
    {selects : Q → K → Bool} (laws : S.Lawful selects) (w : W) (ks : List K) :
    S.get (S.expireAll w ks) = eraseAll (S.get w) ks := by
  induction ks generalizing w with
  | nil => rw [S.expireAll_nil, eraseAll_nil]
  | cons k ks ih =>
      rw [eraseAll_cons, ← laws.get_expire]
      exact ih (S.expire w k)

namespace Prog

/-- Run to the end: the result, the moments not used, and the workspace. -/
def exec (S : Client W K V Q) : Prog K V Q α → List (Moment K) → W → α × List (Moment K) × W
  | .ret a, ms, w => (a, ms, w)
  | .set k v ttl next, ms, w =>
      let m := ms.headD .quiet
      let w₁ := S.expireAll w m.expired
      if m.accepts then (next true).exec S ms.tail (S.set w₁ k v ttl)
      else (next false).exec S ms.tail w₁
  | .get k next, ms, w =>
      let w₁ := S.expireAll w (ms.headD .quiet).expired
      (next (S.get w₁ k)).exec S ms.tail w₁
  | .del k next, ms, w =>
      next.exec S ms.tail (S.del (S.expireAll w (ms.headD .quiet).expired) k)
  | .query q next, ms, w =>
      let w₁ := S.expireAll w (ms.headD .quiet).expired
      (next (S.query w₁ q)).exec S ms.tail w₁

/-- Run to the end and let the keys of the moments not used expire after it. -/
def perform (S : Client W K V Q) (p : Prog K V Q α) (ms : List (Moment K)) (w : W) : α × W :=
  let r := p.exec S ms w
  (r.1, S.expireAll r.2.2 (expiries r.2.1))

theorem exec_bind (S : Client W K V Q) (p : Prog K V Q α) (f : α → Prog K V Q β)
    (ms : List (Moment K)) (w : W) :
    (p.bind f).exec S ms w = (f (p.exec S ms w).1).exec S (p.exec S ms w).2.1 (p.exec S ms w).2.2 := by
  induction p generalizing ms w with
  | ret a => rfl
  | set k v ttl next ih =>
      simp only [bind, exec]
      split
      · exact ih true ms.tail _
      · exact ih false ms.tail _
  | get k next ih => exact ih _ ms.tail _
  | del k next ih => exact ih ms.tail _
  | query q next ih => exact ih _ ms.tail _

/-- Going on with a value that only depends on the result changes only the result. -/
theorem perform_bind_ret (S : Client W K V Q) (p : Prog K V Q α) (f : α → β)
    (ms : List (Moment K)) (w : W) :
    (p.bind fun a => .ret (f a)).perform S ms w = (f (p.perform S ms w).1, (p.perform S ms w).2) := by
  simp only [perform, exec_bind, exec]

/-- Keys deleted and keys expired are gone after a run of deletions; the others
are as before. -/
theorem get_perform_delEach [DecidableEq K] {S : Client W K V Q} {selects : Q → K → Bool}
    (laws : S.Lawful selects) (ks : List K) (ms : List (Moment K)) (w : W) :
    S.get ((delEach ks : Prog K V Q Unit).perform S ms w).2 =
      eraseAll (eraseAll (S.get w) (expiries ms)) ks := by
  induction ks generalizing ms w with
  | nil => rw [eraseAll_nil, ← laws.get_expireAll]; rfl
  | cons k ks ih =>
      have rest := ih ms.tail (S.del (S.expireAll w (ms.headD .quiet).expired) k)
      rw [laws.get_del, laws.get_expireAll] at rest
      rw [← expiries_head_tail ms, eraseAll_append]
      refine Eq.trans rest ?_
      funext k'
      by_cases h : k' = k <;> simp [eraseAll, h]

end Prog

end Keyed
