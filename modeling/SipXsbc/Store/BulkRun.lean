import SipXsbc.Store.Registry
import SipXsbc.Keyed.Interleaving
import SipXsbc.Keyed.Sweep

/-!
# A bulk removal among other workers

`removeAllReg` reads the matching registrations and deletes them one by one,
while other workers register and unregister. The run is a sweep of the registry
map: `Tracks` says how the pool carries it out, and `Carries.run` that a whole run
does.
-/

namespace SipXsbc

open Keyed SBCDataStore

/-- Workers on the registry workspace. -/
abbrev RegPool (W J : Type) := Pool W String J (Option String) RegOp RegAnswer

/-- The calls that name one registration and change it. -/
def RegOp.Single : RegOp → Prop
  | .persistReg _ => True
  | .removeReg _ => True
  | _ => False

theorem RegOp.Single.cases {op : RegOp} (single : op.Single) :
    (∃ regData, op = .persistReg regData) ∨ ∃ regId, op = .removeReg regId := by
  cases op with
  | persistReg regData => exact .inl ⟨regData, rfl⟩
  | removeReg regId => exact .inr ⟨regId, rfl⟩
  | getOneReg regId regData => exact single.elim
  | getReg p regData => exact single.elim
  | removeAllReg p => exact single.elim
  | getAllReg regs => exact single.elim

/-- One bulk removal, by the first worker, and the calls of the others. -/
def bulkScripts (regIdPrefix : String) (workers : List (List RegOp)) : List (List RegOp) :=
  [.removeAllReg regIdPrefix] :: workers

/-- The workspace after the calls of an order, one after another. -/
def serially {W J : Type} (S : RedisClient W J) (form : JsonForm RegData J)
    (order : List (Nat × RegOp)) (w : W) : W :=
  (performAll S (RegOp.code form) (order.map fun o => (o.2, [])) w).2

/-! ## Calls that take effect -/

/-- The key that a call on one registration may change. A registration that is
refused changes none. -/
def RegOp.key : RegOp → Option String
  | .persistReg regData => if incomplete regData then none else some regData.key
  | .removeReg regId => some regId
  | _ => none

/-- What such a call leaves under its key. -/
def RegOp.record : RegOp → Option RegData
  | .persistReg regData => if incomplete regData then none else some regData
  | _ => none

/-- A call of another worker than the first, at the move of the schedule at which
it takes effect. It is spared if it registers a matching key that the bulk removal,
past its read, is not going to delete. -/
structure RegCall where
  time : Nat
  worker : Nat
  op : RegOp
  spared : Bool

namespace RegCall

/-- Its place in an order of calls. -/
def entry (o : RegCall) : Nat × RegOp := (o.worker, o.op)

def key (o : RegCall) : Option String := o.op.key

def record (o : RegCall) : Option RegData := o.op.record

end RegCall

namespace RegPool

variable {W J : Type}

/-- The keys that a worker at a bulk removal has still to delete, once it has read
them. -/
def pendingOf : Worker String J (Option String) RegOp RegAnswer → Option (List String)
  | ⟨none, []⟩ => some []
  | ⟨none, _ :: _⟩ => none
  | ⟨some (_, .query _ _), _⟩ => none
  | ⟨some (_, p), _⟩ => some p.deletions

def pendingDeletions (c : RegPool W J) : Option (List String) := c.workers[0]?.bind pendingOf

/-- The call that takes effect with the next move of a worker. -/
def call (form : JsonForm RegData J) (keyMatches : String → String → Bool) (regIdPrefix : String)
    (c : RegPool W J) (time : Nat) : Nat → Option RegCall
  | 0 => none
  | i + 1 => (c.workers[i + 1]?.bind (·.effective (RegOp.code form))).map fun op =>
      ⟨time, i + 1, op, spares (keyMatches regIdPrefix) c.pendingDeletions
        (boundBy RegOp.key RegOp.record op)⟩

/-- The calls of a schedule, in the order in which they take effect. -/
def calls (S : RedisClient W J) (form : JsonForm RegData J) (keyMatches : String → String → Bool)
    (regIdPrefix : String) : RegPool W J → Nat → List Nat → List RegCall
  | _, _, [] => []
  | c, time, i :: schedule =>
      (c.call form keyMatches regIdPrefix time i).toList ++
        calls S form keyMatches regIdPrefix (c.step S (RegOp.code form) (.work i)) (time + 1) schedule

end RegPool

section Sweep

variable {W J : Type} {S : RedisClient W J} {keyMatches : String → String → Bool}
  {form : JsonForm RegData J} {regIdPrefix : String} {workers : List (List RegOp)}

/-- What the call of a worker does to the registry map. -/
def nextCall (keyMatches : String → String → Bool) (o : RegCall) :
    (String → Option RegData) → String → Option RegData :=
  (registrySpec keyMatches).next o.op

theorem nextCall_keyLocal : KeyLocal (nextCall keyMatches) := by
  intro o m m' k same
  unfold nextCall
  cases o.op with
  | persistReg regData =>
      simp only [registrySpec]
      split
      · exact same
      · simp only [Function.update_apply, same]
  | getOneReg regId regData => exact same
  | getReg p regData => exact same
  | removeReg regId => simp only [registrySpec, Function.update_apply, same]
  | removeAllReg p => simp only [registrySpec, same]
  | getAllReg regs => exact same

theorem nextCall_assigns {o : RegCall} (single : o.op.Single) :
    Assigns (nextCall keyMatches) RegCall.key RegCall.record o := by
  obtain ⟨time, worker, op, spared⟩ := o
  rcases single.cases with ⟨regData, rfl⟩ | ⟨regId, rfl⟩
  · cases refused : incomplete regData with
    | true =>
        refine ⟨fun m k _ => ?_, fun m k here => ?_⟩
        · simp only [nextCall, registrySpec, refused, if_true]
        · simp only [RegCall.key, RegOp.key, refused, if_true, reduceCtorEq] at here
    | false =>
        refine ⟨fun m k elsewhere => ?_, fun m k here => ?_⟩
        · simp only [RegCall.key, RegOp.key, refused, Bool.false_eq_true, if_false] at elsewhere
          simp only [nextCall, registrySpec, refused, Bool.false_eq_true, if_false]
          exact Function.update_of_ne (fun same => elsewhere (congrArg some same.symm)) ..
        · simp only [RegCall.key, RegOp.key, refused, Bool.false_eq_true, if_false,
            Option.some.injEq] at here
          subst here
          simp only [nextCall, registrySpec, RegCall.record, RegOp.record, refused,
            Bool.false_eq_true, if_false, Function.update_self]
  · refine ⟨fun m k elsewhere => ?_, fun m k here => ?_⟩
    · exact Function.update_of_ne (fun same => elsewhere (congrArg some same.symm)) ..
    · cases here
      exact Function.update_self ..

/-- Where the bulk removal stands, by what it has still to delete. -/
inductive RemoverAt (form : JsonForm RegData J) (regIdPrefix : String) :
    Option (List String) → Worker String J (Option String) RegOp RegAnswer → Prop
  | before : RemoverAt form regIdPrefix none ⟨none, [.removeAllReg regIdPrefix]⟩
  | reading : RemoverAt form regIdPrefix none
      ⟨some (.removeAllReg regIdPrefix, (RegOp.removeAllReg regIdPrefix).code form), []⟩
  | deleting {ks : List String} : RemoverAt form regIdPrefix (some ks)
      ⟨some (.removeAllReg regIdPrefix, (Prog.delEach ks).bind fun _ => .ret .done), []⟩
  | ended : RemoverAt form regIdPrefix (some []) ⟨none, []⟩

/-- Another worker has only calls of the two kinds, and is at the beginning or
at the end of the one it is in. -/
structure CallerAt (form : JsonForm RegData J)
    (t : Worker String J (Option String) RegOp RegAnswer) : Prop where
  todo : ∀ op ∈ t.todo, op.Single
  running : ∀ op p, t.running = some (op, p) → op.Single ∧ (p = op.code form ∨ ∃ a, p = .ret a)

section Caller

variable {op : RegOp} {todo : List RegOp} {p : Prog String J (Option String) RegAnswer}

theorem CallerAt.begins (at_ : CallerAt form ⟨none, op :: todo⟩) :
    CallerAt form ⟨some (op, op.code form), todo⟩ := by
  refine ⟨fun op' mem => at_.todo op' (List.mem_cons_of_mem op mem), ?_⟩
  intro op' p running
  cases running
  exact ⟨at_.todo op List.mem_cons_self, .inl rfl⟩

theorem CallerAt.answered (at_ : CallerAt form ⟨some (op, p), todo⟩) (a : RegAnswer) :
    CallerAt form ⟨some (op, .ret a), todo⟩ := by
  refine ⟨at_.todo, ?_⟩
  intro op' p' running
  cases running
  exact ⟨(at_.running op p rfl).1, .inr ⟨a, rfl⟩⟩

theorem CallerAt.single {t : Worker String J (Option String) RegOp RegAnswer}
    (at_ : CallerAt form t) (takesEffect : t.effective (RegOp.code form) = some op) :
    op.Single := by
  obtain ⟨_ | ⟨op', p⟩, todo⟩ := t
  · cases todo with
    | nil => cases takesEffect
    | cons op' todo =>
        change (if (op'.code form).Busy then none else some op') = some op at takesEffect
        split at takesEffect
        · cases takesEffect
        · rw [← Option.some.inj takesEffect]
          exact at_.todo op' List.mem_cons_self
  · change (if p.Busy then some op' else none) = some op at takesEffect
    split at takesEffect
    · rw [← Option.some.inj takesEffect]
      exact (at_.running op' p rfl).1
    · cases takesEffect

theorem CallerAt.ends (at_ : CallerAt form ⟨some (op, p), todo⟩) : CallerAt form ⟨none, todo⟩ := by
  refine ⟨at_.todo, ?_⟩
  intro op' p' running
  cases running

end Caller

/-- The pool carries out the sweep: the store holds its map, the first worker
its pending keys, and the calls done so far keep the order of each worker. -/
structure Tracks (S : RedisClient W J) (form : JsonForm RegData J) (regIdPrefix : String)
    (workers : List (List RegOp)) (c : RegPool W J) (s : Sweep String RegData RegCall) :
    Prop where
  holds : RegistryHolds S form c.store s.map
  remover : ∃ t, c.workers[0]? = some t ∧ RemoverAt form regIdPrefix s.pending t
  callers : ∀ i t, c.workers[i + 1]? = some t → CallerAt form t
  noRemoval : ofWorker (s.ops.map RegCall.entry) 0 = []
  order : ∀ i, ofWorker (s.ops.map RegCall.entry) (i + 1) ++ c.pending (i + 1) = workers.getD i []

theorem Tracks.start {w : W} {m : String → Option RegData} (rep : RegistryHolds S form w m)
    (single : ∀ op ∈ workers.flatten, op.Single) :
    Tracks S form regIdPrefix workers (Pool.start w (bulkScripts regIdPrefix workers))
      ⟨[], none, m⟩ where
  holds := rep
  remover := ⟨_, rfl, .before⟩
  callers i t found := by
    have script : ∃ todo ∈ workers, (⟨none, todo⟩ : Worker _ _ _ _ _) = t := by
      simp only [Pool.start, bulkScripts, List.map_cons, List.getElem?_cons_succ] at found
      exact List.mem_map.mp (List.mem_of_getElem? found)
    obtain ⟨todo, member, rfl⟩ := script
    refine ⟨fun op hop => single op (List.mem_flatten_of_mem member hop), ?_⟩
    intro op p running
    cases running
  noRemoval := rfl
  order i := by
    rw [Pool.pending_start]
    rfl

/-- The first worker moves, and the map with it. -/
theorem Tracks.remove {c : RegPool W J} {s s' : Sweep String RegData RegCall}
    (tracks : Tracks S form regIdPrefix workers c s)
    {t u : Worker String J (Option String) RegOp RegAnswer} (found : c.workers[0]? = some u) {w : W}
    (rep : RegistryHolds S form w s'.map) (at_ : RemoverAt form regIdPrefix s'.pending t)
    (ops : s'.ops = s.ops) :
    Tracks S form regIdPrefix workers ({ c with store := w }.setWorker 0 t) s' where
  holds := rep
  remover := ⟨t, Pool.getElem?_setWorker_self found, at_⟩
  callers i u' found' := by
    rw [Pool.getElem?_setWorker_ne (by omega)] at found'
    exact tracks.callers i u' found'
  noRemoval := by
    rw [ops]
    exact tracks.noRemoval
  order i := by
    rw [Pool.pending_setWorker_ne (by omega), ops]
    exact tracks.order i

/-- Another worker moves, and a call of it may take effect. -/
theorem Tracks.call {c : RegPool W J} {s s' : Sweep String RegData RegCall}
    (tracks : Tracks S form regIdPrefix workers c s) {i : Nat}
    {t u : Worker String J (Option String) RegOp RegAnswer}
    (found : c.workers[i + 1]? = some u) (at_ : CallerAt form t) {w : W}
    (rep : RegistryHolds S form w s'.map) (pending : s'.pending = s.pending)
    (done : Option RegCall) (own : ∀ o, done = some o → o.worker = i + 1)
    (ops : s'.ops = s.ops ++ done.toList)
    (takes : u.pending = (done.map RegCall.op).toList ++ t.pending) :
    Tracks S form regIdPrefix workers ({ c with store := w }.setWorker (i + 1) t) s' where
  holds := rep
  remover := by
    rw [Pool.getElem?_setWorker_ne (by omega), pending]
    exact tracks.remover
  callers j u' found' := by
    by_cases same : i = j
    · subst same
      have here : ({ c with store := w }.setWorker (i + 1) t).workers[i + 1]? = some t :=
        Pool.getElem?_setWorker_self found
      rw [here] at found'
      cases found'
      exact at_
    · rw [Pool.getElem?_setWorker_ne (by omega)] at found'
      exact tracks.callers j u' found'
  noRemoval := by
    rw [ops, List.map_append, ofWorker_append, tracks.noRemoval]
    cases done with
    | none => rfl
    | some o => simp [ofWorker, RegCall.entry, own o rfl]
  order j := by
    rw [ops, List.map_append, ofWorker_append]
    by_cases same : i = j
    · subst same
      have mine : ofWorker (done.toList.map RegCall.entry) (i + 1) =
          (done.map RegCall.op).toList := by
        cases done with
        | none => rfl
        | some o => simp [ofWorker, RegCall.entry, own o rfl]
      have here : ({ c with store := w }.setWorker (i + 1) t).workers[i + 1]? = some t :=
        Pool.getElem?_setWorker_self found
      have before := tracks.order i
      rw [Pool.pending_of_found found, takes, ← List.append_assoc] at before
      rw [mine, Pool.pending_of_found here]
      exact before
    · have none_ : ofWorker (done.toList.map RegCall.entry) (j + 1) = [] := by
        cases done with
        | none => rfl
        | some o => simp [ofWorker, RegCall.entry, own o rfl, same]
      rw [none_, List.append_nil, Pool.pending_setWorker_ne (by omega)]
      exact tracks.order j

/-- What the removal has still to delete is what the sweep has. -/
theorem Tracks.pendingDeletions {c : RegPool W J} {s : Sweep String RegData RegCall}
    (tracks : Tracks S form regIdPrefix workers c s) : c.pendingDeletions = s.pending := by
  obtain ⟨ops, pending, m⟩ := s
  obtain ⟨t, found, at_⟩ := tracks.remover
  unfold RegPool.pendingDeletions
  rw [found, Option.bind_some]
  cases at_ with
  | before => rfl
  | reading => rfl
  | ended => rfl
  | @deleting ks =>
      cases ks with
      | nil => rfl
      | cons k ks => exact congrArg some (Prog.deletions_delEach (k :: ks) RegAnswer.done)

/-! ## The calls as commands -/

theorem code_persistReg_incomplete {regData : RegData} (refused : incomplete regData = true) :
    (RegOp.persistReg regData).code form = .ret (.stored false) := by
  simp only [RegOp.code, persistReg_incomplete form refused]
  rfl

theorem code_persistReg {regData : RegData} (complete : incomplete regData = false) :
    (RegOp.persistReg regData).code form =
      Prog.set regData.key (form.toJsonObject regData) regData.expires fun _ =>
        .ret (.stored true) := by
  simp only [RegOp.code, persistReg_complete form complete]
  rfl

theorem code_removeAllReg (regIdPrefix : String) :
    (RegOp.removeAllReg regIdPrefix).code form = .query (some regIdPrefix) fun values =>
      (Prog.delEach ((pushDecoded form [] values).map RegData.key)).bind fun _ => .ret .done := by
  simp only [RegOp.code, removeAllReg_eq, List.filter_true]
  rfl

/-- The only operation without a command is a registration that is refused. -/
theorem RegOp.refused_of_not_busy {op : RegOp} (idle : ¬ (op.code form).Busy) :
    ∃ regData, incomplete regData = true ∧ op = .persistReg regData := by
  unfold Prog.Busy at idle
  push Not at idle
  obtain ⟨a, code⟩ := idle
  cases op with
  | persistReg regData =>
      cases refused : incomplete regData with
      | true => exact ⟨regData, refused, rfl⟩
      | false =>
          rw [code_persistReg refused] at code
          cases code
  | getOneReg regId regData => cases code
  | getReg regIdPrefix regData => cases code
  | removeReg regId => cases code
  | removeAllReg regIdPrefix =>
      rw [code_removeAllReg] at code
      cases code
  | getAllReg regs => cases code

/-- The read of the bulk removal, on a store of records. -/
theorem picked_eq (laws : S.Lawful (selects keyMatches)) (roundTrips : form.RoundTrips) {w : W}
    {m : String → Option RegData} (rep : RegistryHolds S form w m) (regIdPrefix : String) :
    ((pushDecoded form [] (S.query w (some regIdPrefix))).map RegData.key).Nodup ∧
      ∀ k, k ∈ (pushDecoded form [] (S.query w (some regIdPrefix))).map RegData.key ↔
        keyMatches regIdPrefix k = true ∧ (m k).isSome := by
  obtain ⟨rs, answer, listing⟩ := rep.query laws (some regIdPrefix)
  rw [answer, pushDecoded_encoded roundTrips, List.nil_append]
  exact ⟨listing.1, listing.key_mem_iff rep.own_key⟩

/-! ## Every step is a move of the sweep -/

/-- What a move of worker `i` is for the sweep: nothing, or a move of its own, which
is the call that takes effect, if any. -/
def SweepStep (S : RedisClient W J) (keyMatches : String → String → Bool)
    (form : JsonForm RegData J) (regIdPrefix : String) (workers : List (List RegOp))
    (c c' : RegPool W J) (time i : Nat) (s : Sweep String RegData RegCall) : Prop :=
  c.call form keyMatches regIdPrefix time i = none ∧ Tracks S form regIdPrefix workers c' s ∨
    ∃ s', Sweep.Move (nextCall keyMatches) (keyMatches regIdPrefix)
        (c.call form keyMatches regIdPrefix time i) s s' ∧
      Tracks S form regIdPrefix workers c' s'

variable {c c' : RegPool W J} {s : Sweep String RegData RegCall} {time : Nat}

theorem Tracks.step_remover (laws : S.Lawful (selects keyMatches)) (roundTrips : form.RoundTrips)
    (tracks : Tracks S form regIdPrefix workers c s)
    (step : Pool.Step S (RegOp.code form) c (.work 0) c') :
    SweepStep S keyMatches form regIdPrefix workers c c' time 0 s := by
  obtain ⟨ops, pending, m⟩ := s
  obtain ⟨t, found₀, at_⟩ := tracks.remover
  have rep : RegistryHolds S form c.store m := tracks.holds
  cases step with
  | idle => exact .inl ⟨rfl, tracks⟩
  | begins found =>
      rw [found₀] at found
      cases found
      cases at_ with
      | before => exact .inl ⟨rfl, tracks.remove found₀ rep .reading rfl⟩
  | ends found =>
      rw [found₀] at found
      cases found
      generalize shape : (⟨some (_, .ret _), _⟩ : Worker _ _ _ _ _) = t at at_
      cases at_ with
      | before => cases shape
      | ended => cases shape
      | reading =>
          rw [code_removeAllReg] at shape
          cases shape
      | @deleting ks =>
          cases ks with
          | cons k ks => cases shape
          | nil =>
              cases shape
              exact .inl ⟨rfl, tracks.remove found₀ rep .ended rfl⟩
  | @command _ op p todo found busy =>
      rw [found₀] at found
      cases found
      generalize shape : (⟨some (op, p), todo⟩ : Worker _ _ _ _ _) = t at at_
      cases at_ with
      | before => cases shape
      | ended => cases shape
      | reading =>
          cases shape
          obtain ⟨nodup, live⟩ := picked_eq laws roundTrips rep regIdPrefix
          rw [code_removeAllReg]
          exact .inr ⟨_, .read nodup live, tracks.remove found₀ rep .deleting rfl⟩
      | @deleting ks =>
          cases shape
          cases ks with
          | nil => exact absurd rfl (busy .done)
          | cons k ks =>
              exact .inr ⟨_, .delete, tracks.remove found₀ (rep.del laws k) .deleting rfl⟩

theorem call_of_found {i : Nat} {t : Worker String J (Option String) RegOp RegAnswer}
    (found : c.workers[i + 1]? = some t) :
    c.call form keyMatches regIdPrefix time (i + 1) =
      (t.effective (RegOp.code form)).map fun op =>
        ⟨time, i + 1, op, spares (keyMatches regIdPrefix) c.pendingDeletions
          (boundBy RegOp.key RegOp.record op)⟩ := by
  change (c.workers[i + 1]?.bind _).map _ = _
  rw [found, Option.bind_some]

/-- Another worker moves without a call taking effect. -/
theorem Tracks.noCall (tracks : Tracks S form regIdPrefix workers c s) {i : Nat}
    {t u : Worker String J (Option String) RegOp RegAnswer} (found : c.workers[i + 1]? = some u)
    (none_ : u.effective (RegOp.code form) = none) (at_ : CallerAt form t)
    (same : u.pending = t.pending) :
    SweepStep S keyMatches form regIdPrefix workers c (c.setWorker (i + 1) t) time (i + 1) s := by
  refine .inl ⟨?_, ?_⟩
  · rw [call_of_found found, none_]
    rfl
  · exact tracks.call found at_ tracks.holds rfl none nofun (List.append_nil _).symm same

/-- Another worker moves, and a call of it takes effect. -/
theorem Tracks.oneCall (tracks : Tracks S form regIdPrefix workers c s) {i : Nat}
    {t u : Worker String J (Option String) RegOp RegAnswer} (found : c.workers[i + 1]? = some u)
    {op : RegOp} (takesEffect : u.effective (RegOp.code form) = some op) (at_ : CallerAt form t)
    (takes : u.pending = op :: t.pending) {w : W}
    (rep : RegistryHolds S form w ((registrySpec keyMatches).next op s.map)) :
    SweepStep S keyMatches form regIdPrefix workers c
      ({ c with store := w }.setWorker (i + 1) t) time (i + 1) s := by
  have called : c.call form keyMatches regIdPrefix time (i + 1) = _ := call_of_found found
  rw [takesEffect, Option.map_some] at called
  obtain ⟨o, isCall, worker, rfl⟩ : ∃ o, c.call form keyMatches regIdPrefix time (i + 1) = some o ∧
      o.worker = i + 1 ∧ o.op = op := ⟨_, called, rfl, rfl⟩
  obtain ⟨ops, pending, m⟩ := s
  refine .inr ⟨⟨ops ++ [o], pending, nextCall keyMatches o m⟩, ?_, ?_⟩
  · rw [isCall]
    exact .op o
  · refine tracks.call found at_ rep rfl (some o) ?_ rfl takes
    intro o' same
    rwa [← Option.some.inj same]

/-- A caller begins a call. One that is refused is over with that. -/
theorem Tracks.caller_begins (tracks : Tracks S form regIdPrefix workers c s) {i : Nat}
    {op : RegOp} {todo : List RegOp} (found : c.workers[i + 1]? = some ⟨none, op :: todo⟩) :
    SweepStep S keyMatches form regIdPrefix workers c
      (c.setWorker (i + 1) ⟨some (op, op.code form), todo⟩) time (i + 1) s := by
  have begun := (tracks.callers i _ found).begins
  by_cases busy : (op.code form).Busy
  · exact tracks.noCall found (if_pos busy) begun (Worker.pending_busy busy todo).symm
  · obtain ⟨regData, refused, rfl⟩ := RegOp.refused_of_not_busy busy
    have same : (registrySpec keyMatches).next (.persistReg regData) s.map = s.map := by
      simp only [registrySpec, refused, if_true]
    refine tracks.oneCall found (if_neg busy) begun ?_ ?_
    · rw [code_persistReg_incomplete refused]
      rfl
    · rw [same]
      exact tracks.holds

/-- A caller issues its command, and its call takes effect. -/
theorem Tracks.caller_commands (laws : S.Lawful (selects keyMatches))
    (tracks : Tracks S form regIdPrefix workers c s) {i : Nat} {op : RegOp} {todo : List RegOp}
    (found : c.workers[i + 1]? = some ⟨some (op, op.code form), todo⟩)
    (busy : (op.code form).Busy) :
    SweepStep S keyMatches form regIdPrefix workers c
      ({ c with store := ((op.code form).step S c.store).2 }.setWorker (i + 1)
        ⟨some (op, ((op.code form).step S c.store).1), todo⟩) time (i + 1) s := by
  have at_ := tracks.callers i _ found
  have rep : RegistryHolds S form c.store s.map := tracks.holds
  have takes : Worker.pending ⟨some (op, op.code form), todo⟩ = op :: todo :=
    Worker.pending_busy busy todo
  have effective : Worker.effective (RegOp.code form) ⟨some (op, op.code form), todo⟩ = some op :=
    if_pos busy
  rcases (at_.running op _ rfl).1.cases with ⟨regData, rfl⟩ | ⟨regId, rfl⟩
  · cases refused : incomplete regData with
    | true => exact absurd (code_persistReg_incomplete refused) (busy _)
    | false =>
        have stored := rep.set laws regData regData.expires
        have next : (registrySpec keyMatches).next (.persistReg regData) s.map =
            Function.update s.map regData.key (some regData) := by
          simp only [registrySpec, refused, Bool.false_eq_true, if_false]
        rw [← next] at stored
        have moved : SweepStep S keyMatches form regIdPrefix workers c _ time (i + 1) s :=
          tracks.oneCall found effective (at_.answered (.stored true)) takes stored
        rwa [code_persistReg refused]
  · exact tracks.oneCall found effective (at_.answered .done) takes (rep.del laws regId)

theorem Tracks.step_caller (laws : S.Lawful (selects keyMatches))
    (tracks : Tracks S form regIdPrefix workers c s) {i : Nat}
    (step : Pool.Step S (RegOp.code form) c (.work (i + 1)) c') :
    SweepStep S keyMatches form regIdPrefix workers c c' time (i + 1) s := by
  cases step with
  | idle idle =>
      refine .inl ⟨?_, tracks⟩
      cases found : c.workers[i + 1]? with
      | none =>
          change (c.workers[i + 1]?.bind _).map _ = none
          rw [found]
          rfl
      | some t =>
          rw [call_of_found found, idle t found]
          rfl
  | begins found => exact tracks.caller_begins found
  | ends found => exact tracks.noCall found rfl (tracks.callers i _ found).ends rfl
  | command found busy =>
      rcases ((tracks.callers i _ found).running _ _ rfl).2 with rfl | ⟨a, isRet⟩
      · exact tracks.caller_commands laws found busy
      · exact absurd isRet (busy a)

/-- A call that takes effect assigns to one key, and is spared as the sweep has it. -/
theorem Tracks.takes (tracks : Tracks S form regIdPrefix workers c s) {i : Nat} {o : RegCall}
    (called : c.call form keyMatches regIdPrefix time i = some o) :
    Assigns (nextCall keyMatches) RegCall.key RegCall.record o ∧
      o.spared = spares (keyMatches regIdPrefix) s.pending (boundBy RegCall.key RegCall.record o) := by
  cases i with
  | zero => cases called
  | succ i =>
      cases found : c.workers[i + 1]? with
      | none =>
          change (c.workers[i + 1]?.bind _).map _ = some o at called
          rw [found] at called
          cases called
      | some t =>
          have at_ := tracks.callers i t found
          rw [call_of_found found, Option.map_eq_some_iff] at called
          obtain ⟨op, effective, rfl⟩ := called
          refine ⟨nextCall_assigns (at_.single effective), ?_⟩
          rw [← tracks.pendingDeletions]
          rfl

/-! ## Whole runs -/

/-- The state of a run: the sweep it carries out is right at each key, and what the
last call on each key comes to is known. -/
structure Carries (S : RedisClient W J) (keyMatches : String → String → Bool)
    (form : JsonForm RegData J) (regIdPrefix : String) (workers : List (List RegOp))
    (m : String → Option RegData) (c : RegPool W J) (s : Sweep String RegData RegCall) :
    Prop where
  tracks : Tracks S form regIdPrefix workers c s
  keywise : s.Keywise (nextCall keyMatches) (keyMatches regIdPrefix) m
  settles : s.Settles (nextCall keyMatches) (keyMatches regIdPrefix) RegCall.key RegCall.record
    RegCall.spared m

variable {m : String → Option RegData}

theorem Carries.start {w : W} (rep : RegistryHolds S form w m)
    (single : ∀ op ∈ workers.flatten, op.Single) :
    Carries S keyMatches form regIdPrefix workers m
      (Pool.start w (bulkScripts regIdPrefix workers)) ⟨[], none, m⟩ :=
  ⟨.start rep single, rfl, .start m⟩

theorem Carries.step (laws : S.Lawful (selects keyMatches)) (roundTrips : form.RoundTrips)
    (carries : Carries S keyMatches form regIdPrefix workers m c s) (time i : Nat) :
    ∃ s', Carries S keyMatches form regIdPrefix workers m
        (c.step S (RegOp.code form) (.work i)) s' ∧
      s'.ops = s.ops ++ (c.call form keyMatches regIdPrefix time i).toList := by
  have tracks := carries.tracks
  have stepped : SweepStep S keyMatches form regIdPrefix workers c
      (c.step S (RegOp.code form) (.work i)) time i s := by
    cases i with
    | zero => exact tracks.step_remover laws roundTrips (Pool.step_cases c _)
    | succ i => exact tracks.step_caller laws (Pool.step_cases c _)
  rcases stepped with ⟨none_, tracks'⟩ | ⟨s', move, tracks'⟩
  · rw [none_]
    exact ⟨s, ⟨tracks', carries.keywise, carries.settles⟩, (List.append_nil _).symm⟩
  · have keywise := carries.keywise.move nextCall_keyLocal move
    have settles := carries.settles.move move fun o called => tracks.takes called
    exact ⟨s', ⟨tracks', keywise, settles⟩, move.ops⟩

/-- The moves of a schedule without expiry. -/
def moves (schedule : List Nat) : List (Choice String) := schedule.map .work

/-- A run carries out a sweep of its calls. -/
theorem Carries.run (laws : S.Lawful (selects keyMatches)) (roundTrips : form.RoundTrips)
    (carries : Carries S keyMatches form regIdPrefix workers m c s) (time : Nat)
    (schedule : List Nat) :
    ∃ s', Carries S keyMatches form regIdPrefix workers m
        (c.run S (RegOp.code form) (moves schedule)) s' ∧
      s'.ops = s.ops ++ c.calls S form keyMatches regIdPrefix time schedule := by
  induction schedule generalizing c s time with
  | nil => exact ⟨s, carries, (List.append_nil _).symm⟩
  | cons i schedule ih =>
      obtain ⟨s₁, carries₁, ops₁⟩ := carries.step laws roundTrips time i
      obtain ⟨s', carries', ops'⟩ := ih carries₁ (time + 1)
      refine ⟨s', carries', ?_⟩
      rw [ops', ops₁, List.append_assoc]
      rfl

theorem time_of_call {i : Nat} {o : RegCall}
    (called : c.call form keyMatches regIdPrefix time i = some o) : o.time = time := by
  cases i with
  | zero => cases called
  | succ i =>
      obtain ⟨op, _, rfl⟩ := Option.map_eq_some_iff.mp called
      rfl

/-- The calls of a run take effect one after another. -/
theorem calls_times (c : RegPool W J) (time : Nat) (schedule : List Nat) :
    (∀ o ∈ c.calls S form keyMatches regIdPrefix time schedule, time ≤ o.time) ∧
      (c.calls S form keyMatches regIdPrefix time schedule).Pairwise (·.time < ·.time) := by
  induction schedule generalizing c time with
  | nil => exact ⟨nofun, .nil⟩
  | cons i schedule ih =>
      obtain ⟨later, ordered⟩ := ih (c.step S (RegOp.code form) (.work i)) (time + 1)
      unfold RegPool.calls
      cases called : c.call form keyMatches regIdPrefix time i with
      | none => exact ⟨fun o member => Nat.le_of_succ_le (later o member), ordered⟩
      | some o =>
          have now := time_of_call called
          refine ⟨?_, List.pairwise_cons.mpr ⟨fun o' member => ?_, ordered⟩⟩
          · intro o' member
            rcases List.mem_cons.mp member with rfl | member
            · exact Nat.le_of_eq now.symm
            · exact Nat.le_of_succ_le (later o' member)
          · have after_ := later o' member
            omega

end Sweep

end SipXsbc
