import SipXsbc.Store.MemoryRedis
import SipXsbc.Keyed.Script

/-!
# The registry as a finite map

The registry operations, run by one client on a workspace that starts empty,
answer and act as a finite map from registration keys to registrations does.
`RegOp.simulates` is the argument for single operations; the invariant it
carries (`Represents`) says that the key inside each stored value is the Redis
key, which is what makes `removeAllReg` exact.
-/

namespace SipXsbc

open Keyed SBCDataStore

/-- The operations on registrations, with their arguments. -/
inductive RegOp
  | persistReg (regData : RegData)
  | getOneReg (regId : String) (regData : RegData)
  | getReg (regIdPrefix : String) (regData : RegList)
  | removeReg (regId : String)
  | removeAllReg (regIdPrefix : String)
  | getAllReg (regs : RegList)

/-- What an operation returns, with the arguments it fills in. -/
inductive RegAnswer
  | done
  | stored (ok : Bool)
  | found (ok : Bool) (regData : RegData)
  | matching (ok : Bool) (regData : RegList)
  | all (regs : RegList)

/-- The program of an operation. -/
def RegOp.code {J : Type} (form : JsonForm RegData J) : RegOp → Redis J RegAnswer
  | .persistReg regData => do return .stored (← SBCDataStore.persistReg form regData)
  | .getOneReg regId regData => do
      let (ok, regData) ← SBCDataStore.getOneReg form regId regData
      return .found ok regData
  | .getReg regIdPrefix regData => do
      let (ok, regData) ← SBCDataStore.getReg form regIdPrefix regData
      return .matching ok regData
  | .removeReg regId => do
      SBCDataStore.removeReg regId
      return .done
  | .removeAllReg regIdPrefix => do
      SBCDataStore.removeAllReg form regIdPrefix
      return .done
  | .getAllReg regs => do return .all (← SBCDataStore.getAllReg form regs)

/-- What the registry is for: a map from each registration key to the last
registration accepted for it. A bulk read appends the registrations it selects,
each exactly once, to the list it is given. -/
def registrySpec (keyMatches : String → String → Bool) :
    MapSpec String RegData RegOp RegAnswer where
  answers
    | .persistReg regData, _, answer => answer = .stored (!incomplete regData)
    | .getOneReg regId regData, m, answer =>
        answer = match m regId with
          | some bound => .found true bound
          | none => .found false regData
    | .getReg regIdPrefix regData, m, answer =>
        ∃ rs, Listing RegData.key m (keyMatches regIdPrefix) rs ∧
          answer = .matching (!(regData ++ rs).isEmpty) (regData ++ rs)
    | .removeReg _, _, answer => answer = .done
    | .removeAllReg _, _, answer => answer = .done
    | .getAllReg regs, m, answer =>
        ∃ rs, Listing RegData.key m (fun _ => true) rs ∧ answer = .all (regs ++ rs)
  next
    | .persistReg regData, m =>
        if incomplete regData then m else Function.update m regData.key (some regData)
    | .removeReg regId, m => Function.update m regId none
    | .removeAllReg regIdPrefix, m => fun k => if keyMatches regIdPrefix k then none else m k
    | .getOneReg _ _, m => m
    | .getReg _ _, m => m
    | .getAllReg _, m => m

section Registry

variable {W J : Type} {S : RedisClient W J} {keyMatches : String → String → Bool}
  {form : JsonForm RegData J} {w : W} {m : String → Option RegData}

/-- The workspace holds the registrations of `m`, each under its own key. -/
abbrev RegistryHolds (S : RedisClient W J) (form : JsonForm RegData J) (w : W)
    (m : String → Option RegData) : Prop :=
  Represents S form.toJsonObject RegData.key w m

/-- Withdrawing the registrations whose key matches unbinds the matching keys. -/
theorem withdraw_matching (own : ∀ k r, m k = some r → r.key = k) (regIdPrefix : String) :
    withdraw (fun r => selects keyMatches (some regIdPrefix) r.key && true) m =
      fun k => if keyMatches regIdPrefix k then none else m k := by
  funext k
  cases bound : m k with
  | none => simp [withdraw, bound]
  | some r =>
      have keyEq := own k r bound
      subst keyEq
      cases hit : keyMatches regIdPrefix r.key <;>
        simp [withdraw, selects, Option.filter, bound, hit]

/-- `removeAllReg` unbinds the matching keys, whatever expires meanwhile. -/
theorem RegistryHolds.removeAllReg (laws : S.Lawful (selects keyMatches))
    (roundTrips : form.RoundTrips) (rep : RegistryHolds S form w m) (regIdPrefix : String)
    (ms : List (Moment String)) :
    RegistryHolds S form ((SBCDataStore.removeAllReg form regIdPrefix).perform S ms w).2
      (fun k => if keyMatches regIdPrefix k then none else eraseAll m (expiries ms) k) := by
  have removed := rep.delEach_query laws (some regIdPrefix)
    (fun values => ((pushDecoded form [] values).filter fun _ => true).map RegData.key)
    (fun _ => true) (fun rs => by rw [pushDecoded_encoded roundTrips, List.nil_append]) ms
  have own : ∀ k r, eraseAll m (expiries ms) k = some r → r.key = k :=
    fun k r bound => rep.own_key k r (eraseAll_eq_some bound)
  rw [withdraw_matching own] at removed
  rw [removeAllReg_eq]
  exact removed

/-- Each operation, in any environment that takes its writes, answers and acts
as the map does at one moment between the expiries. -/
theorem RegOp.simulates (laws : S.Lawful (selects keyMatches)) (roundTrips : form.RoundTrips) :
    (registrySpec keyMatches).Simulates S form.toJsonObject RegData.key (RegOp.code form) := by
  intro op ms w m accepted rep
  have read : RegistryHolds S form (atFirst S ms w) (eraseAll m (ms.headD .quiet).expired) :=
    rep.expireAll laws _
  have split := (expiries_head_tail ms).symm
  cases op with
  | persistReg regData =>
      simp only [RegOp.code, Prog.bind_eq, Prog.pure_eq, Prog.perform_bind_ret]
      cases refused : incomplete regData with
      | true =>
          rw [perform_persistReg_incomplete S ms w form refused]
          refine ⟨expiries ms, [], (List.append_nil _).symm, ?_, ?_⟩
          · simp only [registrySpec, refused, Bool.not_true]
          · simpa only [registrySpec, refused, if_true, eraseAll_nil] using
              rep.expireAll laws (expiries ms)
      | false =>
          rw [perform_persistReg S ms w form refused, accepted.head]
          refine ⟨_, _, split, ?_, ?_⟩
          · simp only [registrySpec, refused, Bool.not_false]
          · simpa only [registrySpec, refused, if_true, Bool.false_eq_true, if_false] using
              (read.set laws regData regData.expires).expireAll laws (expiries ms.tail)
  | getOneReg regId regData =>
      simp only [RegOp.code, Prog.bind_eq, Prog.pure_eq, Prog.perform_bind_ret]
      rw [perform_getOneReg, read.get_eq]
      refine ⟨_, _, split, ?_, read.expireAll laws (expiries ms.tail)⟩
      cases bound : eraseAll m (ms.headD .quiet).expired regId with
      | none => simp only [registrySpec, bound, Option.map_none]
      | some r => simp only [registrySpec, bound, Option.map_some, roundTrips regData r]
  | getReg regIdPrefix regData =>
      simp only [RegOp.code, Prog.bind_eq, Prog.pure_eq, Prog.perform_bind_ret]
      obtain ⟨rs, answer, listing⟩ := read.query laws (some regIdPrefix)
      rw [perform_getReg, answer, pushDecoded_encoded roundTrips]
      exact ⟨_, _, split, ⟨rs, listing, rfl⟩, read.expireAll laws (expiries ms.tail)⟩
  | removeReg regId =>
      simp only [RegOp.code, Prog.bind_eq, Prog.pure_eq, Prog.perform_bind_ret]
      rw [perform_removeReg]
      have removed := (read.del laws regId).expireAll laws (expiries ms.tail)
      exact ⟨_, _, split, rfl, removed⟩
  | removeAllReg regIdPrefix =>
      simp only [RegOp.code, Prog.bind_eq, Prog.pure_eq, Prog.perform_bind_ret]
      refine ⟨expiries ms, [], (List.append_nil _).symm, rfl, ?_⟩
      rw [eraseAll_nil]
      exact RegistryHolds.removeAllReg laws roundTrips rep regIdPrefix ms
  | getAllReg regs =>
      simp only [RegOp.code, Prog.bind_eq, Prog.pure_eq, Prog.perform_bind_ret]
      obtain ⟨rs, answer, listing⟩ := read.query laws none
      rw [perform_getAllReg, answer, pushDecoded_encoded roundTrips]
      exact ⟨_, _, split, ⟨rs, listing, rfl⟩, read.expireAll laws (expiries ms.tail)⟩

/-- **The registry refines a finite map.** Every sequence of registry operations
on a workspace that starts empty, with keys expiring at any moment and every
write taken, answers as the map does, and the workspace holds the map at the end. -/
theorem registry_refines_map (laws : S.Lawful (selects keyMatches))
    (roundTrips : form.RoundTrips) (empty : ∀ k, S.get w k = none)
    (script : List (RegOp × List (Moment String)))
    (accepted : ∀ o ∈ script, AllAccepted o.2) :
    ∃ m', (registrySpec keyMatches).Run (fun _ => none) script
        (performAll S (RegOp.code form) script w).1 m' ∧
      RegistryHolds S form (performAll S (RegOp.code form) script w).2 m' :=
  MapSpec.run_of_simulates (RegOp.simulates laws roundTrips) script accepted
    (Represents.of_empty empty)

end Registry

/-- The refinement at a run on `memoryRedis`: a registration is refused, two are
stored, one expires just before a bulk removal, which takes the other. -/
theorem registry_refines_map_memory :
    let script : List (RegOp × List (Moment String)) :=
      [(.persistReg ⟨"", "sip:a@d", "sip:a@h", 60⟩, []),
        (.persistReg ⟨"a1", "sip:a@d", "sip:a@h", 60⟩, []),
        (.persistReg ⟨"b1", "sip:b@d", "sip:b@h", 60⟩, []),
        (.removeAllReg "a", [⟨["b1"], true⟩, ⟨[], true⟩]),
        (.getOneReg "a1" default, [])]
    ∃ m', (registrySpec prefixMatches).Run (fun _ => none) script
        (performAll memoryRedis (RegOp.code regJson) script ∅).1 m' ∧
      RegistryHolds memoryRedis regJson (performAll memoryRedis (RegOp.code regJson) script ∅).2 m' :=
  registry_refines_map memoryRedis_lawful regJson_roundTrips memoryRedis_empty _
    (by decide)

end SipXsbc
