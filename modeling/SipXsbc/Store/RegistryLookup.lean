import SipXsbc.Store.MemoryRedis
import SipXsbc.Store.Registry

/-!
# Looking registrations up by prefix

`getReg` appends the registrations it finds to the list of its caller, and then
answers whether that list is non-empty. So over a series of calls that share one
list, the answer is about the earlier calls as well.
-/

namespace SipXsbc

open Keyed SBCDataStore

variable {W J : Type}

/-! ## Series of calls -/

/-- A step of a caller that looks registrations up: another operation on the registry,
or `getReg` with its list. -/
inductive LookupStep
  | other (op : RegOp)
  | getReg (regIdPrefix : String)

/-- A call of `getReg`: the list passed in, the answer and the list it leaves. `found` is
the workspace that it read. -/
structure Lookup (W : Type) where
  regIdPrefix : String
  passed : RegList
  ok : Bool
  result : RegList
  found : W

section Series

variable (S : RedisClient W J) (form : JsonForm RegData J)

/-- The calls of `getReg` in a series of steps that share one list. -/
def lookups : List (LookupStep × List (Moment String)) → RegList → W → List (Lookup W)
  | [], _, _ => []
  | (.other op, ms) :: steps, regData, w =>
      lookups steps regData ((op.code form).perform S ms w).2
  | (.getReg regIdPrefix, ms) :: steps, regData, w =>
      let ((ok, result), w') := (getReg form regIdPrefix regData).perform S ms w
      ⟨regIdPrefix, regData, ok, result, atFirst S ms w⟩ :: lookups steps result w'

namespace Lookup

/-- What `getOneReg` answers for a key in the workspace of the call. -/
def getOneReg (lookup : Lookup W) (regId : String) : Bool × RegData :=
  ((SBCDataStore.getOneReg form regId default).perform S [] lookup.found).1

/-- Some key that matches the prefix has a registration. -/
def Matches (keyMatches : String → String → Bool) (lookup : Lookup W) : Prop :=
  ∃ regId, keyMatches lookup.regIdPrefix regId = true ∧ (lookup.getOneReg S form regId).1 = true

/-- The list passed in is followed by the registration of each matching key, once. -/
def Appends (keyMatches : String → String → Bool) (lookup : Lookup W) : Prop :=
  ∃ rs, lookup.result = lookup.passed ++ rs ∧ (rs.map RegData.key).Nodup ∧
    ∀ r, r ∈ rs ↔ keyMatches lookup.regIdPrefix r.key = true ∧
      lookup.getOneReg S form r.key = (true, r)

/-- The call reports what it finds, no more and no less. -/
def ReportsWhatItFinds (keyMatches : String → String → Bool) (lookup : Lookup W) : Prop :=
  lookup.Appends S form keyMatches ∧ (lookup.ok = true ↔ lookup.Matches S form keyMatches)

end Lookup

end Series

/-! ## Stores of registrations -/

theorem RegOp.writesOwn (form : JsonForm RegData J) (op : RegOp) :
    (op.code form).WritesOwn form.toJsonObject RegData.key := by
  cases op with
  | persistReg regData =>
      refine Prog.WritesOwn.bind ?_ fun _ => trivial
      cases refused : incomplete regData with
      | true =>
          rw [persistReg_incomplete form refused]
          trivial
      | false =>
          rw [persistReg_complete form refused]
          exact ⟨⟨regData, rfl, rfl⟩, fun _ => trivial⟩
  | getOneReg regId regData =>
      refine Prog.WritesOwn.bind (fun v => ?_) fun _ => trivial
      cases v with
      | none => trivial
      | some data => trivial
  | getReg regIdPrefix regData => exact Prog.WritesOwn.bind (fun _ => trivial) fun _ => trivial
  | removeReg regId => exact Prog.WritesOwn.bind trivial fun _ => trivial
  | removeAllReg regIdPrefix =>
      refine Prog.WritesOwn.bind ?_ fun _ => trivial
      rw [removeAllReg_eq]
      exact fun _ => Prog.writesOwn_delEach _
  | getAllReg regs => exact Prog.WritesOwn.bind (fun _ => trivial) fun _ => trivial

section Report

variable {S : RedisClient W J} {keyMatches : String → String → Bool} {form : JsonForm RegData J}

theorem Lookup.getOneReg_eq (lookup : Lookup W) (regId : String) :
    lookup.getOneReg S form regId =
      match S.get lookup.found regId with
      | none => (false, default)
      | some data => (true, form.fromJsonObject default data) := by
  unfold Lookup.getOneReg
  rw [perform_getOneReg]
  rfl

/-- A call on a store of registrations. -/
theorem getReg_reports_iff_of_holds (laws : S.Lawful (selects keyMatches))
    (roundTrips : form.RoundTrips) (regIdPrefix : String) (regData : RegList)
    (ms : List (Moment String)) {w : W} {m : String → Option RegData}
    (rep : RegistryHolds S form w m) :
    let answer := ((getReg form regIdPrefix regData).perform S ms w).1
    let lookup : Lookup W := ⟨regIdPrefix, regData, answer.1, answer.2, atFirst S ms w⟩
    lookup.ReportsWhatItFinds S form keyMatches ↔
      lookup.passed = [] ∨ lookup.Matches S form keyMatches := by
  intro answer lookup
  have read : RegistryHolds S form (atFirst S ms w) (eraseAll m (ms.headD .quiet).expired) :=
    rep.expireAll laws _
  obtain ⟨rs, values, listing⟩ := read.query laws (some regIdPrefix)
  have one (regId : String) : lookup.getOneReg S form regId =
      match eraseAll m (ms.headD .quiet).expired regId with
      | none => (false, default)
      | some r => (true, r) := by
    rw [Lookup.getOneReg_eq, read.get_eq]
    cases eraseAll m (ms.headD .quiet).expired regId with
    | none => rfl
    | some r => exact congrArg (true, ·) (roundTrips default r)
  have result : lookup.result = regData ++ rs := by
    change (((getReg form regIdPrefix regData).perform S ms w).1).2 = _
    rw [perform_getReg, values]
    exact pushDecoded_encoded roundTrips regData rs
  have ok : lookup.ok = !(regData ++ rs).isEmpty := by
    rw [← result]
    rfl
  have appends : lookup.Appends S form keyMatches := by
    refine ⟨rs, result, listing.1, fun r => (listing.2 r).trans (and_congr_right fun _ => ?_)⟩
    rw [one]
    cases eraseAll m (ms.headD .quiet).expired r.key with
    | none => simp
    | some bound => simp
  have matching : lookup.Matches S form keyMatches ↔ rs ≠ [] := by
    have live (regId : String) : (lookup.getOneReg S form regId).1 = true ↔
        (eraseAll m (ms.headD .quiet).expired regId).isSome = true := by
      rw [one]
      cases eraseAll m (ms.headD .quiet).expired regId with
      | none => simp
      | some bound => simp
    have member (regId : String) := listing.key_mem_iff read.own_key regId
    unfold Lookup.Matches
    simp only [live]
    refine (exists_congr fun regId => (member regId).symm).trans ?_
    cases rs with
    | nil => simp
    | cons r rs => exact iff_of_true ⟨r.key, List.mem_cons_self⟩ (List.cons_ne_nil r rs)
  unfold Lookup.ReportsWhatItFinds
  rw [and_iff_right appends, ok, matching]
  change _ ↔ regData = [] ∨ _
  cases regData with
  | nil => cases rs <;> simp
  | cons r regData => cases rs <;> simp

/-- Other operations, and calls of `getReg`, leave a store of registrations. -/
theorem lookups_hold (laws : S.Lawful (selects keyMatches))
    (roundTrips : form.RoundTrips) (steps : List (LookupStep × List (Moment String)))
    (regData : RegList) {w : W} {m : String → Option RegData} (rep : RegistryHolds S form w m) :
    ∀ lookup ∈ lookups S form steps regData w,
      lookup.ReportsWhatItFinds S form keyMatches ↔
        lookup.passed = [] ∨ lookup.Matches S form keyMatches := by
  induction steps generalizing regData w m with
  | nil => exact fun lookup mem => absurd mem List.not_mem_nil
  | cons step steps ih =>
      obtain ⟨step, ms⟩ := step
      cases step with
      | other op =>
          obtain ⟨m', after⟩ := rep.perform laws (op.writesOwn form) ms
          exact ih regData after
      | getReg regIdPrefix =>
          intro lookup mem
          have own : (getReg form regIdPrefix regData).WritesOwn form.toJsonObject RegData.key :=
            fun _ => trivial
          obtain ⟨m', after⟩ := rep.perform laws own ms
          rcases List.mem_cons.mp mem with rfl | later
          · exact getReg_reports_iff_of_holds laws roundTrips regIdPrefix regData ms rep
          · exact ih _ after lookup later

end Report

/-- In a series of steps on a registry that starts empty, a call of `getReg` reports
what it finds exactly if the list passed in is empty or some registration matches. -/
theorem getReg_reports_what_it_finds_iff {S : RedisClient W J}
    {keyMatches : String → String → Bool} (laws : S.Lawful (selects keyMatches))
    {form : JsonForm RegData J} (roundTrips : form.RoundTrips) {w : W}
    (empty : ∀ k, S.get w k = none) (steps : List (LookupStep × List (Moment String)))
    (regData : RegList) :
    ∀ lookup ∈ lookups S form steps regData w,
      lookup.ReportsWhatItFinds S form keyMatches ↔
        lookup.passed = [] ∨ lookup.Matches S form keyMatches :=
  lookups_hold laws roundTrips steps regData (Represents.of_empty empty)

/-- Two prefixes with a registration each. -/
def twoPrefixes : List (LookupStep × List (Moment String)) :=
  [(.other (.persistReg ⟨"a1", "sip:a@d", "sip:a@h", 60⟩), []),
    (.other (.persistReg ⟨"b1", "sip:b@d", "sip:b@h", 60⟩), []), (.getReg "a", []),
    (.getReg "b", [])]

/-- They are looked up into one list, and both answers are right. -/
theorem getReg_reports_two :
    (lookups memoryRedis regJson twoPrefixes [] ∅).map Lookup.ok = [true, true] ∧
      ∀ lookup ∈ lookups memoryRedis regJson twoPrefixes [] ∅,
        lookup.ReportsWhatItFinds memoryRedis regJson prefixMatches := by
  refine ⟨rfl, ?_⟩
  intro lookup mem
  apply (getReg_reports_what_it_finds_iff memoryRedis_lawful regJson_roundTrips
    memoryRedis_empty _ _ lookup mem).mpr
  rcases List.mem_pair.mp mem with rfl | rfl
  · exact Or.inl rfl
  · exact Or.inr ⟨"b1", by decide, by decide⟩

/-- A registry with one registration. -/
def oneRegistration : AList fun _ : String => JsonObject :=
  memoryRedis.set ∅ "a1" (regJson.toJsonObject ⟨"a1", "sip:a@d", "sip:a@h", 60⟩) 60

theorem oneRegistration_get {regId : String} (other : regId ≠ "a1") :
    memoryRedis.get oneRegistration regId = none := by
  unfold oneRegistration
  rw [memoryRedis_lawful.get_set, Function.update_of_ne other, memoryRedis_empty]

/-- A prefix without a registration is reported as found after one that has some. -/
theorem getReg_reports_unregistered :
    ¬ ∀ lookup ∈ lookups memoryRedis regJson
        [(.other (.persistReg ⟨"a1", "sip:a@d", "sip:a@h", 60⟩), []), (.getReg "a", []),
          (.getReg "b", [])] [] ∅,
      lookup.ReportsWhatItFinds memoryRedis regJson prefixMatches := by
  have second : (⟨"b", [⟨"a1", "sip:a@d", "sip:a@h", 60⟩], true,
      [⟨"a1", "sip:a@d", "sip:a@h", 60⟩], oneRegistration⟩ : Lookup _) ∈
        lookups memoryRedis regJson
          [(.other (.persistReg ⟨"a1", "sip:a@d", "sip:a@h", 60⟩), []), (.getReg "a", []),
            (.getReg "b", [])] [] ∅ :=
    List.mem_cons_of_mem _ List.mem_cons_self
  intro reports
  obtain ⟨regId, hit, live⟩ := (reports _ second).2.mp rfl
  by_cases same : regId = "a1"
  case pos =>
    subst same
    exact absurd hit (by decide)
  case neg =>
    rw [Lookup.getOneReg_eq, oneRegistration_get same] at live
    cases live

end SipXsbc
