import SipXsbc.Store.Registry
import SipXsbc.Store.Dialogs

/-!
# Acknowledged writes

Runs of the whole data store in which any Redis write may fail. `persist`
returns the answer of its write; `persistReg` drops it and returns true. So an
acknowledged dialog is always readable, and an acknowledged registration is
readable exactly when no write of an accepted registration fails, unless the
registry holds that very record already (`ackReadable_iff`).
-/

namespace SipXsbc

open Keyed SBCDataStore

/-- The two workspaces of a data store. -/
structure Workspaces (W : Type) where
  dialogs : W
  registry : W

/-- What happens to a data store: an operation, of which the one write, if it
issues one, is taken or fails, and the expiry of a key. -/
inductive StoreEvent
  | dialogOp (op : DialogOp) (taken : Bool)
  | regOp (op : RegOp) (taken : Bool)
  | dialogExpiry (sessionId : String)
  | regExpiry (regId : String)

/-- The environment of an operation whose write is taken or fails. -/
def writing (taken : Bool) : List (Moment String) := [⟨[], taken⟩]

section Runs

variable {W J : Type} (S : RedisClient W J) (dialogForm : JsonForm DialogData J)
  (regForm : JsonForm RegData J)

def Workspaces.step (ws : Workspaces W) : StoreEvent → Workspaces W
  | .dialogOp op taken =>
      { ws with dialogs := ((op.code dialogForm).perform S (writing taken) ws.dialogs).2 }
  | .regOp op taken =>
      { ws with registry := ((op.code regForm).perform S (writing taken) ws.registry).2 }
  | .dialogExpiry sessionId => { ws with dialogs := S.expire ws.dialogs sessionId }
  | .regExpiry regId => { ws with registry := S.expire ws.registry regId }

def Workspaces.run (ws : Workspaces W) (events : List StoreEvent) : Workspaces W :=
  events.foldl (Workspaces.step S dialogForm regForm) ws

/-- `getOneReg` of the key returns true with exactly the record, whatever record
it is given to fill in. -/
def ReadsReg (w : W) (regData : RegData) : Prop :=
  ∀ out, ((getOneReg regForm regData.key out).perform S [] w).1 = (true, regData)

/-- `getAll` lists the dialog, and nothing else under its session id. -/
def ListsDialog (w : W) (dialogData : DialogData) : Prop :=
  dialogData ∈ ((getAll dialogForm []).perform S [] w).1 ∧
    ∀ other ∈ ((getAll dialogForm []).perform S [] w).1,
      other.sessionId = dialogData.sessionId → other = dialogData

end Runs

/-- A removal, expiry or persist of a registration key. -/
def StoreEvent.TouchesReg (keyMatches : String → String → Bool) (regId : String) :
    StoreEvent → Prop
  | .regOp (.persistReg regData) _ => regData.key = regId
  | .regOp (.removeReg k) _ => k = regId
  | .regOp (.removeAllReg pattern) _ => keyMatches pattern regId = true
  | .regExpiry k => k = regId
  | _ => False

/-- A removal, expiry or persist of the session of a dialog. -/
def StoreEvent.TouchesDialog (dialogData : DialogData) : StoreEvent → Prop
  | .dialogOp (.persist other) _ => other.sessionId = dialogData.sessionId
  | .dialogOp (.removeSession s) _ => s = dialogData.sessionId
  | .dialogOp (.removeAllDialogs callId) _ => callId = dialogData.leg1.callId
  | .dialogExpiry s => s = dialogData.sessionId
  | _ => False

section Claims

variable {W J : Type} (S : RedisClient W J) (keyMatches : String → String → Bool)
  (dialogForm : JsonForm DialogData J) (regForm : JsonForm RegData J)

/-- In every state of the run, a registration for which `persistReg` returned
true, and a dialog for which `persist` did, is readable until its key is
touched again. -/
structure AckReadable (ws : Workspaces W) (events : List StoreEvent) : Prop where
  reg : ∀ before regData taken since later,
    events = before ++ .regOp (.persistReg regData) taken :: since ++ later →
    ((persistReg regForm regData).perform S (writing taken)
      (ws.run S dialogForm regForm before).registry).1 = true →
    (∀ e ∈ since, ¬ e.TouchesReg keyMatches regData.key) →
    ReadsReg S regForm (ws.run S dialogForm regForm
      (before ++ .regOp (.persistReg regData) taken :: since)).registry regData
  dialog : ∀ before dialogData taken since later,
    events = before ++ .dialogOp (.persist dialogData) taken :: since ++ later →
    ((persist dialogForm dialogData).perform S (writing taken)
      (ws.run S dialogForm regForm before).dialogs).1 = true →
    (∀ e ∈ since, ¬ e.TouchesDialog dialogData) →
    ListsDialog S dialogForm (ws.run S dialogForm regForm
      (before ++ .dialogOp (.persist dialogData) taken :: since)).dialogs dialogData

/-- A write of an accepted registration fails only when the registry holds that
very record under its key already. -/
def RegWritesHold (ws : Workspaces W) (events : List StoreEvent) : Prop :=
  ∀ before regData later, events = before ++ .regOp (.persistReg regData) false :: later →
    incomplete regData = false →
    S.get (ws.run S dialogForm regForm before).registry regData.key =
      some (regForm.toJsonObject regData)

end Claims

/-! ## The maps the workspaces hold over a run -/

/-- The registry map after an event, a failed write included. -/
def StoreEvent.nextReg (keyMatches : String → String → Bool) (m : String → Option RegData) :
    StoreEvent → String → Option RegData
  | .regOp (.persistReg regData) taken =>
      if taken then (registrySpec keyMatches).next (.persistReg regData) m else m
  | .regOp op _ => (registrySpec keyMatches).next op m
  | .regExpiry regId => Function.update m regId none
  | _ => m

/-- The dialog map after an event, a failed write included. -/
def StoreEvent.nextDialog (m : String → Option DialogData) :
    StoreEvent → String → Option DialogData
  | .dialogOp (.persist dialogData) taken =>
      if taken then dialogSpec.next (.persist dialogData) m else m
  | .dialogOp op _ => dialogSpec.next op m
  | .dialogExpiry sessionId => Function.update m sessionId none
  | _ => m

section Invariant

variable {W J : Type} {S : RedisClient W J} {keyMatches : String → String → Bool}
  {dialogForm : JsonForm DialogData J} {regForm : JsonForm RegData J} {ws : Workspaces W}
  {mr : String → Option RegData} {md : String → Option DialogData}

/-- One event takes the registry map to its next one. -/
theorem Workspaces.step_registry (laws : S.Lawful (selects keyMatches))
    (roundTrips : regForm.RoundTrips) (rep : RegistryHolds S regForm ws.registry mr)
    (e : StoreEvent) :
    RegistryHolds S regForm (ws.step S dialogForm regForm e).registry (e.nextReg keyMatches mr) := by
  cases e with
  | dialogOp op taken => exact rep
  | dialogExpiry s => exact rep
  | regExpiry k => exact rep.expire laws k
  | regOp op taken =>
      simp only [step, writing]
      cases op with
      | persistReg regData =>
          simp only [RegOp.code, Prog.bind_eq, Prog.pure_eq, Prog.perform_bind_ret]
          cases refused : incomplete regData with
          | true =>
              rw [perform_persistReg_incomplete S _ _ regForm refused]
              cases taken <;> simpa [StoreEvent.nextReg, registrySpec, refused] using rep
          | false =>
              rw [perform_persistReg S _ _ regForm refused]
              cases taken with
              | true =>
                  have stored := rep.set laws regData regData.expires
                  have next : StoreEvent.nextReg keyMatches mr (.regOp (.persistReg regData) true) =
                      Function.update mr regData.key (some regData) := by
                    simp [StoreEvent.nextReg, registrySpec, refused]
                  rw [next]
                  exact stored
              | false => exact rep
      | getOneReg regId regData =>
          simp only [RegOp.code, Prog.bind_eq, Prog.pure_eq, Prog.perform_bind_ret]
          rw [perform_getOneReg]
          exact rep
      | getReg pattern regData => exact rep
      | removeReg regId => exact rep.del laws regId
      | removeAllReg pattern =>
          simp only [RegOp.code, Prog.bind_eq, Prog.pure_eq, Prog.perform_bind_ret]
          have removed := RegistryHolds.removeAllReg laws roundTrips rep pattern [⟨[], taken⟩]
          simp only [expiries_cons, expiries_nil, List.append_nil, eraseAll_nil] at removed
          exact removed
      | getAllReg regs => exact rep

/-- One event takes the dialog map to its next one. -/
theorem Workspaces.step_dialogs (laws : S.Lawful (selects keyMatches))
    (roundTrips : dialogForm.RoundTrips) (rep : DialogsHold S dialogForm ws.dialogs md)
    (e : StoreEvent) :
    DialogsHold S dialogForm (ws.step S dialogForm regForm e).dialogs (e.nextDialog md) := by
  cases e with
  | regOp op taken => exact rep
  | regExpiry k => exact rep
  | dialogExpiry s => exact rep.expire laws s
  | dialogOp op taken =>
      simp only [step, writing]
      cases op with
      | persist dialogData =>
          simp only [DialogOp.code, Prog.bind_eq, Prog.pure_eq, Prog.perform_bind_ret]
          rw [perform_persist]
          cases taken with
          | true => exact rep.set laws dialogData dialogData.expires
          | false => exact rep
      | getAll dialogs => exact rep
      | removeSession s => exact rep.del laws s
      | removeAllDialogs callId =>
          simp only [DialogOp.code, Prog.bind_eq, Prog.pure_eq, Prog.perform_bind_ret]
          have removed := DialogsHold.removeAllDialogs laws roundTrips rep callId [⟨[], taken⟩]
          simp only [expiries_cons, expiries_nil, List.append_nil, eraseAll_nil] at removed
          exact removed

theorem Workspaces.run_registry (laws : S.Lawful (selects keyMatches))
    (roundTrips : regForm.RoundTrips) (rep : RegistryHolds S regForm ws.registry mr)
    (events : List StoreEvent) :
    RegistryHolds S regForm (ws.run S dialogForm regForm events).registry
      (events.foldl (StoreEvent.nextReg keyMatches) mr) := by
  induction events generalizing ws mr with
  | nil => exact rep
  | cons e events ih => exact ih (Workspaces.step_registry laws roundTrips rep e)

theorem Workspaces.run_dialogs (laws : S.Lawful (selects keyMatches))
    (roundTrips : dialogForm.RoundTrips) (rep : DialogsHold S dialogForm ws.dialogs md)
    (events : List StoreEvent) :
    DialogsHold S dialogForm (ws.run S dialogForm regForm events).dialogs
      (events.foldl StoreEvent.nextDialog md) := by
  induction events generalizing ws md with
  | nil => exact rep
  | cons e events ih => exact ih (Workspaces.step_dialogs laws roundTrips rep e)

/-! ## What is not touched stays -/

theorem StoreEvent.nextReg_of_not_touches {regId : String} {e : StoreEvent}
    (untouched : ¬ e.TouchesReg keyMatches regId) :
    e.nextReg keyMatches mr regId = mr regId := by
  cases e with
  | dialogOp op taken => rfl
  | dialogExpiry s => rfl
  | regExpiry k => exact Function.update_of_ne (Ne.symm untouched) none mr
  | regOp op taken =>
      cases op with
      | persistReg regData =>
          have other : regId ≠ regData.key := Ne.symm untouched
          simp only [nextReg, registrySpec]
          split
          · split
            · rfl
            · exact Function.update_of_ne other _ mr
          · rfl
      | getOneReg k regData => rfl
      | getReg pattern regData => rfl
      | removeReg k => exact Function.update_of_ne (Ne.symm untouched) none mr
      | removeAllReg pattern => exact if_neg untouched
      | getAllReg regs => rfl

theorem StoreEvent.nextDialog_of_not_touches {dialogData : DialogData} {e : StoreEvent}
    (untouched : ¬ e.TouchesDialog dialogData)
    (bound : md dialogData.sessionId = some dialogData) :
    e.nextDialog md dialogData.sessionId = some dialogData := by
  cases e with
  | regOp op taken => exact bound
  | regExpiry k => exact bound
  | dialogExpiry s => exact (Function.update_of_ne (Ne.symm untouched) none md).trans bound
  | dialogOp op taken =>
      cases op with
      | persist other =>
          have differs : dialogData.sessionId ≠ other.sessionId := Ne.symm untouched
          simp only [nextDialog, dialogSpec]
          split
          · exact (Function.update_of_ne differs _ md).trans bound
          · exact bound
      | getAll dialogs => exact bound
      | removeSession s => exact (Function.update_of_ne (Ne.symm untouched) none md).trans bound
      | removeAllDialogs callId =>
          have kept : (dialogData.leg1.callId != callId) = true :=
            bne_iff_ne.mpr (Ne.symm untouched)
          simp only [nextDialog, dialogSpec, bound, Option.filter, kept, if_true]

theorem foldl_nextReg_of_not_touches {regId : String} {events : List StoreEvent}
    (untouched : ∀ e ∈ events, ¬ e.TouchesReg keyMatches regId) :
    events.foldl (StoreEvent.nextReg keyMatches) mr regId = mr regId := by
  induction events generalizing mr with
  | nil => rfl
  | cons e events ih =>
      rw [List.foldl_cons, ih fun e' he' => untouched e' (List.mem_cons_of_mem e he')]
      exact StoreEvent.nextReg_of_not_touches (untouched e List.mem_cons_self)

theorem foldl_nextDialog_of_not_touches {dialogData : DialogData} {events : List StoreEvent}
    (untouched : ∀ e ∈ events, ¬ e.TouchesDialog dialogData)
    (bound : md dialogData.sessionId = some dialogData) :
    events.foldl StoreEvent.nextDialog md dialogData.sessionId = some dialogData := by
  induction events generalizing md with
  | nil => exact bound
  | cons e events ih =>
      have kept := StoreEvent.nextDialog_of_not_touches (untouched e List.mem_cons_self) bound
      exact ih (fun e' he' => untouched e' (List.mem_cons_of_mem e he')) kept

/-! ## Reading what the maps hold -/

/-- A registration is readable exactly when the registry map binds it. -/
theorem readsReg_iff (roundTrips : regForm.RoundTrips)
    (rep : RegistryHolds S regForm ws.registry mr) (regData : RegData) :
    ReadsReg S regForm ws.registry regData ↔ mr regData.key = some regData := by
  have read : ∀ out, ((getOneReg regForm regData.key out).perform S [] ws.registry).1 =
      match mr regData.key with
        | none => (false, out)
        | some bound => (true, bound) := by
    intro out
    rw [perform_getOneReg]
    have get : S.get (atFirst S [] ws.registry) regData.key =
        (mr regData.key).map regForm.toJsonObject := rep.get_eq regData.key
    rw [get]
    cases mr regData.key with
    | none => rfl
    | some bound => simp only [Option.map_some, roundTrips out bound]
  unfold ReadsReg
  refine ⟨?_, ?_⟩
  · intro readable
    have found := (read regData).symm.trans (readable regData)
    cases bound : mr regData.key with
    | none => rw [bound] at found; cases found
    | some r => rw [bound] at found; cases found; rfl
  · intro bound out
    rw [read out, bound]

/-- What the dialog map binds is listed, alone under its session id. -/
theorem listsDialog_of_bound (laws : S.Lawful (selects keyMatches))
    (roundTrips : dialogForm.RoundTrips) (rep : DialogsHold S dialogForm ws.dialogs md)
    {dialogData : DialogData} (bound : md dialogData.sessionId = some dialogData) :
    ListsDialog S dialogForm ws.dialogs dialogData := by
  obtain ⟨ds, answer, listing⟩ := rep.query laws none
  have listed : ((getAll dialogForm []).perform S [] ws.dialogs).1 = ds := by
    rw [perform_getAll]
    have query : S.query (atFirst S [] ws.dialogs) none = ds.map dialogForm.toJsonObject := answer
    rw [query, pushDecoded_encoded roundTrips, List.nil_append]
  unfold ListsDialog
  rw [listed]
  refine ⟨(listing.2 dialogData).mpr ⟨rfl, bound⟩, ?_⟩
  intro other member sameId
  have otherBound := ((listing.2 other).mp member).2
  rw [sameId, bound] at otherBound
  exact (Option.some.inj otherBound).symm

/-- An acknowledged registration is bound right after its write, if a failed
write only repeats what is there. -/
theorem nextReg_persistReg_bound {regData : RegData} {taken : Bool}
    (complete : incomplete regData = false)
    (held : taken = false → mr regData.key = some regData) :
    StoreEvent.nextReg keyMatches mr (.regOp (.persistReg regData) taken) regData.key =
      some regData := by
  cases taken with
  | true => simp [StoreEvent.nextReg, registrySpec, complete]
  | false => exact held rfl

/-- `persistReg` returns true exactly for complete records, whatever becomes of
its write. -/
theorem persistReg_returns (form : JsonForm RegData J) (regData : RegData)
    (ms : List (Moment String)) (w : W) :
    ((persistReg form regData).perform S ms w).1 = !incomplete regData := by
  cases refused : incomplete regData with
  | true => rw [perform_persistReg_incomplete S ms w form refused]; rfl
  | false => rw [perform_persistReg S ms w form refused]; rfl

/-- The registry binds a record in a state of the run exactly when its JSON is
stored under its key. -/
theorem bound_iff_stored (roundTrips : regForm.RoundTrips)
    (rep : RegistryHolds S regForm ws.registry mr) (regData : RegData) :
    S.get ws.registry regData.key = some (regForm.toJsonObject regData) ↔
      mr regData.key = some regData := by
  rw [rep.get_eq]
  refine ⟨?_, ?_⟩
  · intro stored
    obtain ⟨r, bound, sameJson⟩ := Option.map_eq_some_iff.mp stored
    have same : r = regData := by
      have decoded := congrArg (regForm.fromJsonObject regData) sameJson
      rwa [roundTrips, roundTrips] at decoded
    rw [bound, same]
  · intro bound
    rw [bound]
    rfl

/-- **Acknowledged writes are readable exactly when registration writes hold.**
In every run from workspaces of the store's own making. -/
theorem ackReadable_iff (laws : S.Lawful (selects keyMatches))
    (dialogRoundTrips : dialogForm.RoundTrips) (regRoundTrips : regForm.RoundTrips)
    (dialogRep : DialogsHold S dialogForm ws.dialogs md)
    (regRep : RegistryHolds S regForm ws.registry mr) (events : List StoreEvent) :
    AckReadable S keyMatches dialogForm regForm ws events ↔
      RegWritesHold S dialogForm regForm ws events := by
  have regAt : ∀ es, RegistryHolds S regForm (ws.run S dialogForm regForm es).registry
      (es.foldl (StoreEvent.nextReg keyMatches) mr) :=
    Workspaces.run_registry laws regRoundTrips regRep
  have dialogAt : ∀ es, DialogsHold S dialogForm (ws.run S dialogForm regForm es).dialogs
      (es.foldl StoreEvent.nextDialog md) :=
    Workspaces.run_dialogs laws dialogRoundTrips dialogRep
  refine ⟨?_, ?_⟩
  · intro readable before regData later split complete
    have acked : ((persistReg regForm regData).perform S (writing false)
        (ws.run S dialogForm regForm before).registry).1 = true := by
      rw [persistReg_returns, complete]
      rfl
    have read := readable.reg before regData false [] later (by simpa using split) acked
      (by intro e he; cases he)
    rw [readsReg_iff regRoundTrips (regAt _), List.foldl_append] at read
    -- a failed write leaves the map, so the record was bound before it
    rw [bound_iff_stored regRoundTrips (regAt before)]
    exact read
  · intro hold
    refine ⟨?_, ?_⟩
    · intro before regData taken since later split acked untouched
      rw [persistReg_returns, Bool.not_eq_true'] at acked
      rw [readsReg_iff regRoundTrips (regAt _), List.foldl_append, List.foldl_cons,
        foldl_nextReg_of_not_touches untouched]
      apply nextReg_persistReg_bound acked
      intro failed
      subst failed
      have stored := hold before regData (since ++ later) (by simpa using split) acked
      exact (bound_iff_stored regRoundTrips (regAt before) regData).mp stored
    · intro before dialogData taken since later split acked untouched
      have isTaken : taken = true := by
        rw [perform_persist] at acked
        cases taken with
        | true => rfl
        | false => cases acked
      subst isTaken
      apply listsDialog_of_bound laws dialogRoundTrips (dialogAt _)
      rw [List.foldl_append, List.foldl_cons]
      exact foldl_nextDialog_of_not_touches untouched (Function.update_self _ _ _)

end Invariant

/-- A lost registration is acknowledged: on an empty store the one write of
`persistReg` fails, true is returned, and the record is not there. -/
theorem ackReadable_fails :
    ¬ AckReadable memoryRedis prefixMatches dialogJson regJson ⟨∅, ∅⟩
      [.regOp (.persistReg ⟨"a1", "sip:a@d", "sip:a@h", 60⟩) false] := by
  intro readable
  have read := readable.reg [] ⟨"a1", "sip:a@d", "sip:a@h", 60⟩ false [] [] rfl (by decide)
    (by intro e he; cases he) default
  revert read
  decide

/-- The equivalence at a run on `memoryRedis` whose failed write repeats what is
there. -/
theorem ackReadable_iff_memory :
    let regData : RegData := ⟨"a1", "sip:a@d", "sip:a@h", 60⟩
    let events : List StoreEvent :=
      [.regOp (.persistReg regData) true, .dialogOp (.persist ⟨"s1", ⟨"c"⟩, [], 60⟩) false,
        .regOp (.persistReg regData) false]
    AckReadable memoryRedis prefixMatches dialogJson regJson ⟨∅, ∅⟩ events ↔
      RegWritesHold memoryRedis dialogJson regJson ⟨∅, ∅⟩ events :=
  ackReadable_iff memoryRedis_lawful dialogJson_roundTrips regJson_roundTrips
    (Represents.of_empty memoryRedis_empty) (Represents.of_empty memoryRedis_empty) _

end SipXsbc
