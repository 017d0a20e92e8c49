import SipXsbc.Store.Dialogs
import SipXsbc.Keyed.Interleaving

/-!
# Dialog operations of many workers

`removeAllDialogs` deletes what it found in one read, so other workers may
persist, remove and bulk-remove the same sessions before each deletion. As long
as all dialogs persisted under one session id carry the same Call-ID in their
first leg, it never removes a dialog of another Call-ID, and it leaves none of
its own that it found and nobody persisted again.

`removalPart` is the invariant of a worker's program: what is left of a
`removeAllDialogs` deletes only sessions that some worker persists with that
Call-ID. `PersistedOnly` is the invariant of the store.
-/

namespace SipXsbc

open Keyed SBCDataStore

variable {W J : Type} {S : RedisClient W J} {keyMatches : String → String → Bool}
  {form : JsonForm DialogData J} {scripts : List (List DialogOp)}

/-- Workers on the dialogs workspace. -/
abbrev DialogPool (W J : Type) := Pool W String J (Option String) DialogOp DialogAnswer

/-- Some worker persists this dialog. -/
def Persisted (scripts : List (List DialogOp)) (dialogData : DialogData) : Prop :=
  DialogOp.persist dialogData ∈ scripts.flatten

/-- All dialogs persisted under one session id carry the same Call-ID in their
first leg. -/
def OneCallId (scripts : List (List DialogOp)) : Prop :=
  ∀ d d', Persisted scripts d → Persisted scripts d' → d.sessionId = d'.sessionId →
    d.leg1.callId = d'.leg1.callId

/-- Whatever the next command of a `removeAllDialogs` under way takes from the
store carries its Call-ID. -/
def RemovesOwn (S : RedisClient W J) (form : JsonForm DialogData J) (c : DialogPool W J) : Prop :=
  ∀ i callId p todo s value,
    c.workers[i]? = some ⟨some (.removeAllDialogs callId, p), todo⟩ →
    S.get c.store s = some value →
    S.get (c.step S (DialogOp.code form) (.work i)).store s ≠ some value →
    (form.fromJsonObject default value).leg1.callId = callId

/-- From the call of a `removeAllDialogs` on: what is stored under its Call-ID at
its first command, and nobody persists from then on, is absent once it is over.
Before that command the others move as they like. -/
def RemovesFound (S : RedisClient W J) (form : JsonForm DialogData J) (c : DialogPool W J) : Prop :=
  ∀ i callId todo others s value schedule,
    c.workers[i]? = some ⟨none, .removeAllDialogs callId :: todo⟩ →
    .work i ∉ others →
    S.get (c.run S (DialogOp.code form) (.work i :: others)).store s = some value →
    (form.fromJsonObject default value).leg1.callId = callId →
    Pool.Unwritten S (DialogOp.code form) s
      (c.run S (DialogOp.code form) (.work i :: others)) (.work i :: schedule) →
    (∀ p, (c.run S (DialogOp.code form) (.work i :: others ++ .work i :: schedule)).workers[i]? =
      some ⟨some (.removeAllDialogs callId, p), todo⟩ → ¬ p.Busy) →
    S.get (c.run S (DialogOp.code form) (.work i :: others ++ .work i :: schedule)).store s = none

/-! ## The invariant -/

/-- Every record of the store is one that some worker persists, under its own
session id. -/
def PersistedOnly (S : RedisClient W J) (form : JsonForm DialogData J)
    (scripts : List (List DialogOp)) (w : W) : Prop :=
  ∀ s value, S.get w s = some value →
    ∃ d, Persisted scripts d ∧ d.sessionId = s ∧ value = form.toJsonObject d

/-- What a program of an operation may look like: the whole of it, nothing, or
deletions of sessions persisted with the Call-ID that is being removed. -/
inductive RemovalPart (form : JsonForm DialogData J) (scripts : List (List DialogOp)) :
    DialogOp → Redis J DialogAnswer → Prop
  | begun {op : DialogOp} : op ∈ scripts.flatten → RemovalPart form scripts op (op.code form)
  | ended {op : DialogOp} {answer : DialogAnswer} : RemovalPart form scripts op (.ret answer)
  | deleting {callId : String} {ss : List String} :
    (∀ s ∈ ss, ∃ d, Persisted scripts d ∧ d.sessionId = s ∧ d.leg1.callId = callId) →
    RemovalPart form scripts (.removeAllDialogs callId)
      ((Prog.delEach ss).bind fun _ => .ret .done)

/-- The sessions that `removeAllDialogs` picks from the values it read. -/
def toDelete (form : JsonForm DialogData J) (callId : String) (values : List J) : List String :=
  ((pushDecoded form [] values).filter (·.leg1.callId == callId)).map DialogData.sessionId

theorem code_removeAllDialogs (callId : String) :
    (DialogOp.removeAllDialogs callId).code form = .query none fun values =>
      (Prog.delEach (toDelete form callId values)).bind fun _ => .ret .done := by
  simp only [DialogOp.code, removeAllDialogs_eq]
  rfl

theorem mem_toDelete {callId : String} {values : List J} {s : String} :
    s ∈ toDelete form callId values ↔ ∃ value ∈ values,
      (form.fromJsonObject default value).leg1.callId = callId ∧
      (form.fromJsonObject default value).sessionId = s := by
  simp only [toDelete, pushDecoded_eq, List.nil_append, List.mem_map, List.mem_filter,
    beq_iff_eq]
  refine ⟨?_, ?_⟩
  · intro given
    rcases given with ⟨_, ⟨⟨value, member, rfl⟩, sameCallId⟩, sameId⟩
    exact ⟨value, member, sameCallId, sameId⟩
  · intro given
    rcases given with ⟨value, member, sameCallId, sameId⟩
    exact ⟨_, ⟨⟨value, member, rfl⟩, sameCallId⟩, sameId⟩

/-- A query answers only values that are stored. -/
theorem stored_of_mem_query (laws : S.Lawful (selects keyMatches)) {w : W} {q : Option String}
    {value : J} (member : value ∈ S.query w q) : ∃ s, S.get w s = some value := by
  obtain ⟨keys, _, _, answer⟩ := laws.query_live w q
  rw [answer, List.mem_filterMap] at member
  obtain ⟨s, _, stored⟩ := member
  exact ⟨s, stored⟩

/-- A session that goes takes nothing from the invariant. -/
theorem PersistedOnly.unbind {w w' : W} (stored : PersistedOnly S form scripts w) {s : String}
    (get : S.get w' = Function.update (S.get w) s none) : PersistedOnly S form scripts w' := by
  intro s' value bound
  rw [get, Function.update_apply] at bound
  split at bound
  · cases bound
  · exact stored s' value bound

theorem PersistedOnly.set (laws : S.Lawful (selects keyMatches)) {w : W}
    (stored : PersistedOnly S form scripts w) {d : DialogData} (persisted : Persisted scripts d)
    (ttl : Int) : PersistedOnly S form scripts (S.set w d.sessionId (form.toJsonObject d) ttl) := by
  intro s value bound
  rw [laws.get_set, Function.update_apply] at bound
  split at bound
  · rename_i sameId
    cases bound
    exact ⟨d, persisted, sameId.symm, rfl⟩
  · exact stored s value bound

/-- Every command of every operation keeps the invariant. -/
theorem removal_rules (laws : S.Lawful (selects keyMatches)) (roundTrips : form.RoundTrips) :
    Pool.Rules S (DialogOp.code form) (PersistedOnly S form scripts)
      (RemovalPart form scripts) (· ∈ scripts.flatten) where
  begins op member := .begun member
  expires w s stored := stored.unbind (laws.get_expire w s)
  command op p w part busy stored := by
    cases part with
    | ended => exact absurd rfl (busy _)
    | begun member =>
        cases op with
        | persist d => exact ⟨stored.set laws member _, .ended⟩
        | getAll dialogs => exact ⟨stored, .ended⟩
        | removeSession s => exact ⟨stored.unbind (laws.get_del w s), .ended⟩
        | removeAllDialogs callId =>
            rw [code_removeAllDialogs]
            refine ⟨stored, .deleting ?_⟩
            intro s chosen
            obtain ⟨value, member, sameCallId, sameId⟩ := mem_toDelete.mp chosen
            obtain ⟨s', bound⟩ := stored_of_mem_query laws member
            obtain ⟨d, persisted, _, rfl⟩ := stored s' value bound
            rw [roundTrips] at sameCallId sameId
            exact ⟨d, persisted, sameId, sameCallId⟩
    | @deleting callId ss own =>
        cases ss with
        | nil => exact absurd rfl (busy .done)
        | cons s ss =>
            have rest := fun s' hs' => own s' (List.mem_cons_of_mem s hs')
            exact ⟨stored.unbind (laws.get_del w s), .deleting rest⟩

/-! ## Removal is exact -/

theorem removesOwn (laws : S.Lawful (selects keyMatches)) (roundTrips : form.RoundTrips)
    (oneCallId : OneCallId scripts) {c : DialogPool W J}
    (holds : Pool.Holds (PersistedOnly S form scripts) (RemovalPart form scripts)
      (· ∈ scripts.flatten) c) : RemovesOwn S form c := by
  intro i callId p todo s value found bound taken
  have part := holds.running _ (List.mem_of_getElem? found) _ _ rfl
  by_cases busy : p.Busy
  · have next : c.step S (DialogOp.code form) (.work i) = _ := Pool.work_busy found busy
    rw [next] at taken
    cases part with
    | ended => exact absurd rfl (busy _)
    | begun member =>
        rw [code_removeAllDialogs] at taken
        exact absurd bound taken
    | @deleting callId ss own =>
        cases ss with
        | nil => exact absurd rfl (busy .done)
        | cons s' ss =>
            simp only [Pool.setWorker_store, Prog.delEach, Prog.bind, Prog.step, laws.get_del,
              Function.update_apply] at taken
            split at taken
            · rename_i same
              subst same
              obtain ⟨d, persisted, sameId, sameCallId⟩ := own s List.mem_cons_self
              obtain ⟨d', persisted', sameId', rfl⟩ := holds.store s value bound
              rw [roundTrips, ← sameCallId]
              exact oneCallId d' d persisted' persisted (sameId'.trans sameId.symm)
            · exact absurd bound taken
  · unfold Prog.Busy at busy
    push Not at busy
    obtain ⟨a, rfl⟩ := busy
    have same : (c.step S (DialogOp.code form) (.work i)).store = c.store := by
      simp only [Pool.step, Pool.work, found, Pool.setWorker_store]
    rw [same] at taken
    exact absurd bound taken

/-- A `removeAllDialogs` about to read finds what is stored under its Call-ID,
and deletes it. -/
theorem read_aboutToDelete (laws : S.Lawful (selects keyMatches)) (roundTrips : form.RoundTrips)
    {c : DialogPool W J} (stored : PersistedOnly S form scripts c.store) {i : Nat}
    {callId s : String} {todo : List DialogOp} {value : J}
    (found : c.workers[i]? = some ⟨some (.removeAllDialogs callId,
      (DialogOp.removeAllDialogs callId).code form), todo⟩)
    (bound : S.get c.store s = some value)
    (sameCallId : (form.fromJsonObject default value).leg1.callId = callId) :
    Pool.AboutToDelete S i (.removeAllDialogs callId) todo s
      (c.step S (DialogOp.code form) (.work i)) := by
  have listed : s ∈ toDelete form callId (S.query c.store none) := by
    obtain ⟨keys, _, live, answer⟩ := laws.query_live c.store none
    have isLive : s ∈ keys := (live s).mpr ⟨rfl, by rw [bound]; rfl⟩
    obtain ⟨d, _, sameId, rfl⟩ := stored s value bound
    rw [mem_toDelete]
    refine ⟨form.toJsonObject d, ?_, sameCallId, ?_⟩
    · rw [answer]
      exact List.mem_filterMap.mpr ⟨s, isLive, bound⟩
    · rw [roundTrips]
      exact sameId
  have busy : ((DialogOp.removeAllDialogs callId).code form).Busy := by
    rw [code_removeAllDialogs]
    intro a isRet
    cases isRet
  have next : c.step S (DialogOp.code form) (.work i) = _ := Pool.work_busy found busy
  rw [next, code_removeAllDialogs]
  exact .inr ⟨_, Pool.getElem?_setWorker_self found, Prog.willDelete_delEach listed _⟩

theorem removesFound (laws : S.Lawful (selects keyMatches)) (roundTrips : form.RoundTrips)
    {c : DialogPool W J}
    (holds : Pool.Holds (PersistedOnly S form scripts) (RemovalPart form scripts)
      (· ∈ scripts.flatten) c) : RemovesFound S form c := by
  intro i callId todo others s value schedule called othersMove bound sameCallId unwritten finished
  have stored := ((removal_rules laws roundTrips).run holds (.work i :: others)).store
  rw [Pool.run_append] at finished ⊢
  -- the call puts the whole program before worker i, and the others leave it there
  have begun : (c.run S (DialogOp.code form) (.work i :: others)).workers[i]? =
      some ⟨some (.removeAllDialogs callId, (DialogOp.removeAllDialogs callId).code form), todo⟩ := by
    rw [Pool.run_cons, Pool.worker_run_of_others othersMove, Pool.step_call called]
    exact Pool.getElem?_setWorker_self called
  have about := read_aboutToDelete laws roundTrips stored begun bound sameCallId
  rcases about.run laws unwritten.2 with gone | ⟨p, at_, will⟩
  · exact gone
  · exact absurd will.busy (finished p at_)

/-- **Concurrent dialog removal is exact.** In every state that any schedule
reaches from an empty workspace. -/
theorem concurrent_removal_exact (laws : S.Lawful (selects keyMatches))
    (roundTrips : form.RoundTrips) {w : W} (empty : ∀ k, S.get w k = none)
    (oneCallId : OneCallId scripts) (schedule : List (Choice String)) :
    RemovesOwn S form ((Pool.start w scripts).run S (DialogOp.code form) schedule) ∧
      RemovesFound S form ((Pool.start w scripts).run S (DialogOp.code form) schedule) := by
  have started : PersistedOnly S form scripts w := by
    intro s value bound
    rw [empty] at bound
    cases bound
  have holds := (removal_rules laws roundTrips).run (Pool.Holds.start started fun _ h => h) schedule
  exact ⟨removesOwn laws roundTrips oneCallId holds, removesFound laws roundTrips holds⟩

/-- A session under the Call-ID that is removed, and one that only has a second
leg under it. -/
def dialogScripts : List (List DialogOp) :=
  [[.persist ⟨"s1", ⟨"c1"⟩, [], 60⟩, .removeAllDialogs "c1"],
    [.persist ⟨"s2", ⟨"c2"⟩, [⟨"c1"⟩], 60⟩, .removeSession "s2"]]

theorem dialogScripts_oneCallId : OneCallId dialogScripts := by
  intro d d' persisted persisted' sameId
  simp only [Persisted, dialogScripts, List.flatten_cons, List.flatten_nil, List.cons_append,
    List.nil_append, List.append_nil, List.mem_cons, DialogOp.persist.injEq, reduceCtorEq,
    List.not_mem_nil, or_false, false_or] at persisted persisted'
  rcases persisted with rfl | rfl <;> rcases persisted' with rfl | rfl <;> simp_all

/-- The first worker has persisted its session and is about to remove it. -/
def dialogRace : DialogPool (AList fun _ : String => JsonObject) JsonObject :=
  (Pool.start ∅ dialogScripts).run memoryRedis (DialogOp.code dialogJson)
    [.work 0, .work 0, .work 0]

/-- Exactness at a run on `memoryRedis`: the other session is persisted between
the call of `removeAllDialogs` and its read, and expires between the read and
the deletion. -/
theorem concurrent_removal_exact_memory :
    RemovesOwn memoryRedis dialogJson (dialogRace.run memoryRedis (DialogOp.code dialogJson)
        [.work 0, .work 1, .work 1, .work 0]) ∧
      memoryRedis.get (dialogRace.run memoryRedis (DialogOp.code dialogJson)
        [.work 0, .work 1, .work 1, .work 0, .expire "s2", .work 0]).store "s1" = none := by
  have exact_ := fun schedule => concurrent_removal_exact memoryRedis_lawful dialogJson_roundTrips
    memoryRedis_empty dialogScripts_oneCallId schedule
  refine ⟨(exact_ [.work 0, .work 0, .work 0, .work 0, .work 1, .work 1, .work 0]).1, ?_⟩
  apply (exact_ [.work 0, .work 0, .work 0]).2 0 "c1" [] [.work 1, .work 1] "s1" _
    [.expire "s2", .work 0] rfl (by decide) rfl rfl
  · refine ⟨?_, id, ?_, trivial⟩
    · intro writes
      obtain ⟨op, v, ttl, next, todo, found⟩ := writes
      cases found
    · intro writes
      obtain ⟨op, v, ttl, next, todo, found⟩ := writes
      cases found
  · intro p found busy
    cases found
    exact busy .done rfl

end SipXsbc
