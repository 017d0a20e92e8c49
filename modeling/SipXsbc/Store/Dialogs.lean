import SipXsbc.Store.MemoryRedis
import SipXsbc.Keyed.Script

/-!
# The dialogs as a finite map

The dialog operations, run by one client on a workspace that starts empty,
answer and act as a finite map from session ids to dialogs does.
`removeAllDialogs` selects by the Call-ID of the first leg and deletes by the
session id, both read from the stored content; it is exact because each stored
dialog carries the session id it is stored under (`DialogsHold`).
-/

namespace SipXsbc

open Keyed SBCDataStore

/-- The operations on dialogs, with their arguments. -/
inductive DialogOp
  | persist (dialogData : DialogData)
  | getAll (dialogs : DialogList)
  | removeSession (sessionId : String)
  | removeAllDialogs (callId : String)

inductive DialogAnswer
  | done
  | stored (ok : Bool)
  | all (dialogs : DialogList)

/-- The program of an operation. -/
def DialogOp.code {J : Type} (form : JsonForm DialogData J) : DialogOp → Redis J DialogAnswer
  | .persist dialogData => do return .stored (← SBCDataStore.persist form dialogData)
  | .getAll dialogs => do return .all (← SBCDataStore.getAll form dialogs)
  | .removeSession sessionId => do
      SBCDataStore.removeSession sessionId
      return .done
  | .removeAllDialogs callId => do
      SBCDataStore.removeAllDialogs form callId
      return .done

/-- What the dialog store is for: a map from each session id to the last dialog
persisted for it. Removing a Call-ID removes the sessions whose first leg
carries it; the other legs do not count. -/
def dialogSpec : MapSpec String DialogData DialogOp DialogAnswer where
  answers
    | .persist _, _, answer => answer = .stored true
    | .getAll dialogs, m, answer =>
        ∃ ds, Listing DialogData.sessionId m (fun _ => true) ds ∧ answer = .all (dialogs ++ ds)
    | .removeSession _, _, answer => answer = .done
    | .removeAllDialogs _, _, answer => answer = .done
  next
    | .persist dialogData, m => Function.update m dialogData.sessionId (some dialogData)
    | .getAll _, m => m
    | .removeSession sessionId, m => Function.update m sessionId none
    | .removeAllDialogs callId, m =>
        fun s => (m s).filter fun dialog => dialog.leg1.callId != callId

section Dialogs

variable {W J : Type} {S : RedisClient W J} {keyMatches : String → String → Bool}
  {form : JsonForm DialogData J} {w : W} {m : String → Option DialogData}

/-- The workspace holds the dialogs of `m`, each under its own session id. -/
abbrev DialogsHold (S : RedisClient W J) (form : JsonForm DialogData J) (w : W)
    (m : String → Option DialogData) : Prop :=
  Represents S form.toJsonObject DialogData.sessionId w m

/-- `removeAllDialogs` removes the sessions whose first leg has the Call-ID,
whatever expires meanwhile. -/
theorem DialogsHold.removeAllDialogs (laws : S.Lawful (selects keyMatches))
    (roundTrips : form.RoundTrips) (rep : DialogsHold S form w m) (callId : String)
    (ms : List (Moment String)) :
    DialogsHold S form ((SBCDataStore.removeAllDialogs form callId).perform S ms w).2
      (fun s => (eraseAll m (expiries ms) s).filter fun dialog => dialog.leg1.callId != callId) := by
  have removed := rep.delEach_query laws none
    (fun values => ((pushDecoded form [] values).filter (·.leg1.callId == callId)).map
      DialogData.sessionId)
    (·.leg1.callId == callId)
    (fun ds => by rw [pushDecoded_encoded roundTrips, List.nil_append]) ms
  rw [removeAllDialogs_eq]
  exact removed

/-- Each operation, in any environment that takes its writes, answers and acts
as the map does at one moment between the expiries. -/
theorem DialogOp.simulates (laws : S.Lawful (selects keyMatches)) (roundTrips : form.RoundTrips) :
    dialogSpec.Simulates S form.toJsonObject DialogData.sessionId (DialogOp.code form) := by
  intro op ms w m accepted rep
  have read : DialogsHold S form (atFirst S ms w) (eraseAll m (ms.headD .quiet).expired) :=
    rep.expireAll laws _
  have split := (expiries_head_tail ms).symm
  cases op with
  | persist dialogData =>
      simp only [DialogOp.code, Prog.bind_eq, Prog.pure_eq, Prog.perform_bind_ret]
      rw [perform_persist, if_pos accepted.head]
      have stored := (read.set laws dialogData dialogData.expires).expireAll laws (expiries ms.tail)
      exact ⟨_, _, split, rfl, stored⟩
  | getAll dialogs =>
      simp only [DialogOp.code, Prog.bind_eq, Prog.pure_eq, Prog.perform_bind_ret]
      obtain ⟨ds, answer, listing⟩ := read.query laws none
      rw [perform_getAll, answer, pushDecoded_encoded roundTrips]
      exact ⟨_, _, split, ⟨ds, listing, rfl⟩, read.expireAll laws (expiries ms.tail)⟩
  | removeSession sessionId =>
      simp only [DialogOp.code, Prog.bind_eq, Prog.pure_eq, Prog.perform_bind_ret]
      rw [perform_removeSession]
      have removed := (read.del laws sessionId).expireAll laws (expiries ms.tail)
      exact ⟨_, _, split, rfl, removed⟩
  | removeAllDialogs callId =>
      simp only [DialogOp.code, Prog.bind_eq, Prog.pure_eq, Prog.perform_bind_ret]
      refine ⟨expiries ms, [], (List.append_nil _).symm, rfl, ?_⟩
      rw [eraseAll_nil]
      exact DialogsHold.removeAllDialogs laws roundTrips rep callId ms

/-- **The dialogs refine a finite map.** Every sequence of dialog operations on a
workspace that starts empty, with keys expiring at any moment and every write
taken, answers as the map does, and the workspace holds the map at the end. -/
theorem dialogs_refine_map (laws : S.Lawful (selects keyMatches))
    (roundTrips : form.RoundTrips) (empty : ∀ s, S.get w s = none)
    (script : List (DialogOp × List (Moment String)))
    (accepted : ∀ o ∈ script, AllAccepted o.2) :
    ∃ m', dialogSpec.Run (fun _ => none) script
        (performAll S (DialogOp.code form) script w).1 m' ∧
      DialogsHold S form (performAll S (DialogOp.code form) script w).2 m' :=
  MapSpec.run_of_simulates (DialogOp.simulates laws roundTrips) script accepted
    (Represents.of_empty empty)

end Dialogs

/-- The refinement at a run on `memoryRedis`: of two sessions with one Call-ID
the first is persisted again with another one, and the bulk removal, during
which a third expires, takes the second. -/
theorem dialogs_refine_map_memory :
    let script : List (DialogOp × List (Moment String)) :=
      [(.persist ⟨"s1", ⟨"c"⟩, [], 60⟩, []),
        (.persist ⟨"s2", ⟨"c"⟩, [], 60⟩, []),
        (.persist ⟨"s3", ⟨"d"⟩, [⟨"c"⟩], 60⟩, []),
        (.persist ⟨"s1", ⟨"e"⟩, [⟨"c"⟩], 60⟩, []),
        (.removeAllDialogs "c", [⟨[], true⟩, ⟨["s3"], true⟩]),
        (.getAll [], [])]
    ∃ m', dialogSpec.Run (fun _ => none) script
        (performAll memoryRedis (DialogOp.code dialogJson) script ∅).1 m' ∧
      DialogsHold memoryRedis dialogJson
        (performAll memoryRedis (DialogOp.code dialogJson) script ∅).2 m' :=
  dialogs_refine_map memoryRedis_lawful dialogJson_roundTrips memoryRedis_empty _ (by decide)

end SipXsbc
