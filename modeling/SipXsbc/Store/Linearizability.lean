import SipXsbc.Store.BulkRun
import SipXsbc.Store.ConcurrentDialogs
import SipXsbc.Keyed.Linearization

/-!
# Linearizability of the data store

Any number of workers run any operations on one workspace, with keys expiring
at any moment. Every operation but the two bulk removals takes effect at one
moment between its call and its answer, and answers as the map does at that
moment. A bulk removal is a read of what it selects and then one removal for
each record read, in the order read (`Expands`); a record that is no longer
there, or is there again, is removed all the same.

What is shown of each operation is its first command (`RegStage.first`,
`DialogStage.first`); the rest is `Pool.Acts.of_first`.
-/

namespace SipXsbc

open Keyed SBCDataStore

/-! ## The registry -/

/-- The acts of an operation that gives an answer: itself, or for the bulk
removal a read and the removals. -/
inductive RegOp.Expands : RegOp → List (RegOp × RegAnswer) → RegAnswer → Prop
  | atomic {op : RegOp} {a : RegAnswer} :
    (∀ regIdPrefix, op ≠ .removeAllReg regIdPrefix) → RegOp.Expands op [(op, a)] a
  | removeAllReg {regIdPrefix : String} {rs : RegList} :
    RegOp.Expands (.removeAllReg regIdPrefix)
      ((.getReg regIdPrefix [], .matching (!rs.isEmpty) rs) ::
        (rs.map RegData.key).map fun regId => (.removeReg regId, .done)) .done

theorem RegOp.expandable (op : RegOp) : ∃ acts a, RegOp.Expands op acts a := by
  cases op with
  | removeAllReg regIdPrefix => exact ⟨_, _, @RegOp.Expands.removeAllReg regIdPrefix []⟩
  | _ => exact ⟨_, .done, .atomic (by intro _ h; cases h)⟩

/-- The act that a deletion of the bulk removal is. -/
def removalOfReg (regId : String) : RegOp × RegAnswer := (.removeReg regId, .done)

section Registry

variable {W J : Type} {S : RedisClient W J} {keyMatches : String → String → Bool}
  {form : JsonForm RegData J}

/-- What is left of a registry operation after its acts. -/
abbrev RegStage (form : JsonForm RegData J) :
    RegOp → List (RegOp × RegAnswer) → Redis J RegAnswer → Prop :=
  Pool.Stage (RegOp.code form) RegOp.Expands removalOfReg

/-- An operation that is one command answers and acts as the map does. -/
theorem RegStage.one {op : RegOp} {a : RegAnswer} {p : Redis J RegAnswer} {w : W}
    {m : String → Option RegData} (atomic : ∀ regIdPrefix, op ≠ .removeAllReg regIdPrefix)
    (returns : p = .ret a) (answers : (registrySpec keyMatches).answers op m a)
    (holds : RegistryHolds S form w ((registrySpec keyMatches).next op m)) :
    ∃ acts m', (registrySpec keyMatches).Performs m acts m' ∧ RegStage form op acts p ∧
      RegistryHolds S form w m' := by
  subst returns
  exact ⟨[(op, a)], _, .one answers, .answered (.atomic atomic), holds⟩

/-- The first command of an operation. -/
theorem RegStage.first (laws : S.Lawful (selects keyMatches)) (roundTrips : form.RoundTrips)
    (op : RegOp) (w : W) (m : String → Option RegData) (busy : (op.code form).Busy)
    (rep : RegistryHolds S form w m) :
    ∃ acts m', (registrySpec keyMatches).Performs m acts m' ∧
      RegStage form op acts ((op.code form).step S w).1 ∧
      RegistryHolds S form ((op.code form).step S w).2 m' := by
  cases op with
  | persistReg regData =>
      cases refused : incomplete regData with
      | true =>
          rw [code_persistReg_incomplete refused] at busy
          exact absurd rfl (busy _)
      | false =>
          have answers : (registrySpec keyMatches).answers (.persistReg regData) m (.stored true) := by
            simp only [registrySpec, refused, Bool.not_false]
          have binds : (registrySpec keyMatches).next (.persistReg regData) m =
              Function.update m regData.key (some regData) := by
            simp only [registrySpec, refused, Bool.false_eq_true, if_false]
          rw [code_persistReg refused]
          refine RegStage.one (by intro _ h; cases h) rfl answers ?_
          rw [binds]
          exact rep.set laws regData regData.expires
  | getOneReg regId regData =>
      have stored := rep.get_eq regId
      cases bound : m regId with
      | none =>
          rw [bound] at stored
          have read : ((RegOp.getOneReg regId regData).code form).step S w =
              (.ret (.found false regData), w) := by
            simp only [RegOp.code, getOneReg, Redis.get, Prog.bind_eq, Prog.bind, Prog.step, stored]
            rfl
          have answers : (registrySpec keyMatches).answers (.getOneReg regId regData) m
              (.found false regData) := by simp only [registrySpec, bound]
          rw [read]
          exact RegStage.one (by intro _ h; cases h) rfl answers rep
      | some r =>
          rw [bound] at stored
          have read : ((RegOp.getOneReg regId regData).code form).step S w =
              (.ret (.found true (form.fromJsonObject regData (form.toJsonObject r))), w) := by
            simp only [RegOp.code, getOneReg, Redis.get, Prog.bind_eq, Prog.bind, Prog.step, stored]
            rfl
          have answers : (registrySpec keyMatches).answers (.getOneReg regId regData) m
              (.found true r) := by simp only [registrySpec, bound]
          rw [read, roundTrips]
          exact RegStage.one (by intro _ h; cases h) rfl answers rep
  | getReg regIdPrefix regData =>
      obtain ⟨rs, answer, listing⟩ := rep.query laws (some regIdPrefix)
      have read : ((RegOp.getReg regIdPrefix regData).code form).step S w =
          (.ret (.matching (!(pushDecoded form regData (S.query w (some regIdPrefix))).isEmpty)
            (pushDecoded form regData (S.query w (some regIdPrefix)))), w) := rfl
      have answers : (registrySpec keyMatches).answers (.getReg regIdPrefix regData) m
          (.matching (!(regData ++ rs).isEmpty) (regData ++ rs)) := ⟨rs, listing, rfl⟩
      rw [read, answer, pushDecoded_encoded roundTrips]
      exact RegStage.one (by intro _ h; cases h) rfl answers rep
  | removeReg regId =>
      have answers : (registrySpec keyMatches).answers (.removeReg regId) m .done := rfl
      exact RegStage.one (by intro _ h; cases h) rfl answers (rep.del laws regId)
  | removeAllReg regIdPrefix =>
      obtain ⟨rs, answer, listing⟩ := rep.query laws (some regIdPrefix)
      have read : ((RegOp.removeAllReg regIdPrefix).code form).step S w =
          ((Prog.delEach (rs.map RegData.key)).bind fun _ => .ret .done, w) := by
        rw [code_removeAllReg, Prog.step, answer, pushDecoded_encoded roundTrips, List.nil_append]
      have answers : (registrySpec keyMatches).answers (.getReg regIdPrefix []) m
          (.matching (!rs.isEmpty) rs) := ⟨rs, listing, rfl⟩
      rw [read]
      exact ⟨_, m, .one answers, .removing .removeAllReg, rep⟩
  | getAllReg regs =>
      obtain ⟨rs, answer, listing⟩ := rep.query laws none
      have read : ((RegOp.getAllReg regs).code form).step S w =
          (.ret (.all (pushDecoded form regs (S.query w none))), w) := rfl
      have answers : (registrySpec keyMatches).answers (.getAllReg regs) m (.all (regs ++ rs)) :=
        ⟨rs, listing, rfl⟩
      rw [read, answer, pushDecoded_encoded roundTrips]
      exact RegStage.one (by intro _ h; cases h) rfl answers rep

/-- A registration that is refused is an act that leaves every map as it is. -/
theorem RegStage.refused {regData : RegData} (refused : incomplete regData = true) :
    ∃ acts, RegStage form (.persistReg regData) acts ((RegOp.persistReg regData).code form) ∧
      ∀ m, (registrySpec keyMatches).Performs m acts m := by
  refine ⟨[(.persistReg regData, .stored false)], ?_, ?_⟩
  · rw [code_persistReg_incomplete refused]
    exact .answered (.atomic (by intro _ h; cases h))
  · intro m
    have answers : (registrySpec keyMatches).answers (.persistReg regData) m (.stored false) := by
      simp only [registrySpec, refused, Bool.not_true]
    have same : (registrySpec keyMatches).next (.persistReg regData) m = m := by
      simp only [registrySpec, refused, if_true]
    have performs := MapSpec.Performs.one answers
    rwa [same] at performs

/-- The commands of every registry operation are its acts. -/
theorem reg_acts (laws : S.Lawful (selects keyMatches)) (roundTrips : form.RoundTrips) :
    Pool.Acts S (RegOp.code form) form.toJsonObject RegData.key (registrySpec keyMatches)
      RegOp.Expands (RegStage form) := by
  apply Pool.Acts.of_first laws (fun k m => ⟨rfl, rfl⟩) RegOp.expandable
  · intro op idle
    obtain ⟨regData, refused, rfl⟩ := RegOp.refused_of_not_busy idle
    exact RegStage.refused refused
  · exact RegStage.first laws roundTrips

/-- **Concurrent registry runs have linearization points.** -/
theorem registry_linearization (laws : S.Lawful (selects keyMatches))
    (roundTrips : form.RoundTrips) {w : W} {m₀ : String → Option RegData}
    (rep : RegistryHolds S form w m₀) (scripts : List (List RegOp))
    (schedule : List (Choice String)) :
    ∃ es m, Explains (registrySpec keyMatches) RegOp.Expands m₀
        ((Pool.start w scripts).history S (RegOp.code form) schedule) es m ∧
      RegistryHolds S form ((Pool.start w scripts).run S (RegOp.code form) schedule).store m :=
  (reg_acts laws roundTrips).explains laws rep scripts schedule

end Registry

/-- Linearization points at a run on `memoryRedis`: a contact is registered and
one expires while a bulk removal is between its read and its deletions. -/
theorem registry_linearization_memory :
    let scripts : List (List RegOp) :=
      [[.persistReg ⟨"a1", "sip:a@d", "sip:a@h1", 60⟩, .removeAllReg "a"],
        [.persistReg ⟨"a2", "sip:a@d", "sip:a@h2", 60⟩, .getOneReg "a1" default]]
    let schedule : List (Choice String) :=
      [.work 0, .work 0, .work 0, .work 0, .work 0, .work 1, .work 1, .expire "a1", .work 0, .work 0]
    let c := Pool.start ∅ scripts
    ∃ es m, Explains (registrySpec prefixMatches) RegOp.Expands (fun _ => none)
        (c.history memoryRedis (RegOp.code regJson) schedule) es m ∧
      RegistryHolds memoryRedis regJson (c.run memoryRedis (RegOp.code regJson) schedule).store m :=
  registry_linearization memoryRedis_lawful regJson_roundTrips (.of_empty memoryRedis_empty) _ _

/-! ## The dialogs -/

/-- The acts of a dialog operation that gives an answer. The bulk removal reads
all dialogs and removes, by session id, those with its Call-ID. -/
inductive DialogOp.Expands : DialogOp → List (DialogOp × DialogAnswer) → DialogAnswer → Prop
  | atomic {op : DialogOp} {a : DialogAnswer} :
    (∀ callId, op ≠ .removeAllDialogs callId) → DialogOp.Expands op [(op, a)] a
  | removeAllDialogs {callId : String} {ds : DialogList} :
    DialogOp.Expands (.removeAllDialogs callId)
      ((.getAll [], .all ds) ::
        ((ds.filter (·.leg1.callId == callId)).map DialogData.sessionId).map
          fun sessionId => (.removeSession sessionId, .done)) .done

theorem DialogOp.expandable (op : DialogOp) : ∃ acts a, DialogOp.Expands op acts a := by
  cases op with
  | removeAllDialogs callId => exact ⟨_, _, @DialogOp.Expands.removeAllDialogs callId []⟩
  | _ => exact ⟨_, .done, .atomic (by intro _ h; cases h)⟩

def removalOfSession (sessionId : String) : DialogOp × DialogAnswer :=
  (.removeSession sessionId, .done)

section Dialogs

variable {W J : Type} {S : RedisClient W J} {keyMatches : String → String → Bool}
  {form : JsonForm DialogData J}

/-- What is left of a dialog operation after its acts. -/
abbrev DialogStage (form : JsonForm DialogData J) :
    DialogOp → List (DialogOp × DialogAnswer) → Redis J DialogAnswer → Prop :=
  Pool.Stage (DialogOp.code form) DialogOp.Expands removalOfSession

theorem DialogStage.one {op : DialogOp} {a : DialogAnswer} {p : Redis J DialogAnswer} {w : W}
    {m : String → Option DialogData} (atomic : ∀ callId, op ≠ .removeAllDialogs callId)
    (returns : p = .ret a) (answers : dialogSpec.answers op m a)
    (holds : DialogsHold S form w (dialogSpec.next op m)) :
    ∃ acts m', dialogSpec.Performs m acts m' ∧ DialogStage form op acts p ∧
      DialogsHold S form w m' := by
  subst returns
  exact ⟨[(op, a)], _, .one answers, .answered (.atomic atomic), holds⟩

theorem DialogStage.first (laws : S.Lawful (selects keyMatches)) (roundTrips : form.RoundTrips)
    (op : DialogOp) (w : W) (m : String → Option DialogData) (_busy : (op.code form).Busy)
    (rep : DialogsHold S form w m) :
    ∃ acts m', dialogSpec.Performs m acts m' ∧
      DialogStage form op acts ((op.code form).step S w).1 ∧
      DialogsHold S form ((op.code form).step S w).2 m' := by
  cases op with
  | persist dialogData =>
      have answers : dialogSpec.answers (.persist dialogData) m (.stored true) := rfl
      exact DialogStage.one (by intro _ h; cases h) rfl answers
        (rep.set laws dialogData dialogData.expires)
  | getAll dialogs =>
      obtain ⟨ds, answer, listing⟩ := rep.query laws none
      have read : ((DialogOp.getAll dialogs).code form).step S w =
          (.ret (.all (pushDecoded form dialogs (S.query w none))), w) := rfl
      have answers : dialogSpec.answers (.getAll dialogs) m (.all (dialogs ++ ds)) :=
        ⟨ds, listing, rfl⟩
      rw [read, answer, pushDecoded_encoded roundTrips]
      exact DialogStage.one (by intro _ h; cases h) rfl answers rep
  | removeSession sessionId =>
      have answers : dialogSpec.answers (.removeSession sessionId) m .done := rfl
      exact DialogStage.one (by intro _ h; cases h) rfl answers (rep.del laws sessionId)
  | removeAllDialogs callId =>
      obtain ⟨ds, answer, listing⟩ := rep.query laws none
      have read : ((DialogOp.removeAllDialogs callId).code form).step S w =
          ((Prog.delEach ((ds.filter (·.leg1.callId == callId)).map DialogData.sessionId)).bind
            fun _ => .ret .done, w) := by
        rw [code_removeAllDialogs, Prog.step, answer, toDelete, pushDecoded_encoded roundTrips,
          List.nil_append]
      have answers : dialogSpec.answers (.getAll []) m (.all ds) := ⟨ds, listing, rfl⟩
      rw [read]
      exact ⟨_, m, .one answers, .removing .removeAllDialogs, rep⟩

/-- Every dialog operation begins with a command. -/
theorem DialogOp.busy (op : DialogOp) : (op.code form).Busy := by
  intro a code
  cases op with
  | persist dialogData => cases code
  | getAll dialogs => cases code
  | removeSession sessionId => cases code
  | removeAllDialogs callId =>
      rw [code_removeAllDialogs] at code
      cases code

/-- The commands of every dialog operation are its acts. -/
theorem dialog_acts (laws : S.Lawful (selects keyMatches)) (roundTrips : form.RoundTrips) :
    Pool.Acts S (DialogOp.code form) form.toJsonObject DialogData.sessionId dialogSpec
      DialogOp.Expands (DialogStage form) := by
  apply Pool.Acts.of_first laws (fun k m => ⟨rfl, rfl⟩) DialogOp.expandable
  · exact fun op idle => absurd op.busy idle
  · exact DialogStage.first laws roundTrips

/-- **Concurrent dialog runs have linearization points.** -/
theorem dialog_linearization (laws : S.Lawful (selects keyMatches))
    (roundTrips : form.RoundTrips) {w : W} {m₀ : String → Option DialogData}
    (rep : DialogsHold S form w m₀) (scripts : List (List DialogOp))
    (schedule : List (Choice String)) :
    ∃ es m, Explains dialogSpec DialogOp.Expands m₀
        ((Pool.start w scripts).history S (DialogOp.code form) schedule) es m ∧
      DialogsHold S form ((Pool.start w scripts).run S (DialogOp.code form) schedule).store m :=
  (dialog_acts laws roundTrips).explains laws rep scripts schedule

end Dialogs

/-- Linearization points at a run on `memoryRedis`: two workers remove one
Call-ID while a third persists a session with it again. -/
theorem dialog_linearization_memory :
    let scripts : List (List DialogOp) :=
      [[.persist ⟨"s1", ⟨"c"⟩, [], 60⟩, .removeAllDialogs "c"], [.removeAllDialogs "c"],
        [.persist ⟨"s1", ⟨"c"⟩, [], 60⟩, .getAll []]]
    let schedule : List (Choice String) :=
      [.work 0, .work 0, .work 0, .work 0, .work 0, .work 1, .work 1, .work 1, .work 2, .work 2,
        .work 0, .work 0, .work 2, .work 2, .work 2, .work 2]
    let c := Pool.start ∅ scripts
    ∃ es m, Explains dialogSpec DialogOp.Expands (fun _ => none)
        (c.history memoryRedis (DialogOp.code dialogJson) schedule) es m ∧
      DialogsHold memoryRedis dialogJson
        (c.run memoryRedis (DialogOp.code dialogJson) schedule).store m :=
  dialog_linearization memoryRedis_lawful dialogJson_roundTrips (.of_empty memoryRedis_empty) _ _

end SipXsbc
