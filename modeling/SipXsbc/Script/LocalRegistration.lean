import SipXsbc.Script.RouteProfile
import Mathlib.Data.List.Nodup

/-!
# Setting up a local registration

`handleLocalReg` sets four properties one after another, and the bridge refuses a
value that is no non-empty string without the script noticing. So the local handler
may be invoked with a hash, a realm or an expiry that is missing, or that an earlier
call left behind.
-/

namespace SipXsbc

open Keyed RouteProfile

variable {T : Type}

/-! ## What a call should do -/

/-- The text of a value that stands for a property; numbers are written as `numText`
has it. -/
def JsVal.text (numText : JsNumber → String) : JsVal → Option String
  | str s => some s
  | num n => some (numText n)
  | _ => none

section Outcome

variable (host : SipHost T) (numText : JsNumber → String) (i : Nat)
  (properties : List (String × JsVal))

/-- Every property reads as its value. -/
def AllRead (w : World T RouteScript) : Prop :=
  ∀ property ∈ properties, ∃ text, property.2.text numText = some text ∧
    w.transactionProperty host i (.str property.1) = .str text

/-- No property differs between two states of a transaction. -/
def NoneDiffers (t t' : T) : Prop :=
  ∀ property ∈ properties, host.getProperty t' property.1 = host.getProperty t property.1

/-- On a REGISTER with a transaction all properties read as their values or none
differs. Nothing changes on other messages. -/
def AllOrNothing (w w' : World T RouteScript) : Prop :=
  match (w.messages i).userData with
  | none => w' = w
  | some k =>
      if (w.messages i).method = some "REGISTER" then
        AllRead host numText i properties w' ∨
          NoneDiffers host properties (w.transactions k) (w'.transactions k)
      else w' = w

/-- Each value is a non-empty string, or its property reads as the value before. -/
def AllSettle (w : World T RouteScript) : Prop :=
  ∀ property ∈ properties,
    (∃ s, property.2 = .str s ∧ s ≠ "" ∧ NulFree s) ∨
      ∃ text, property.2.text numText = some text ∧
        w.transactionProperty host i (.str property.1) = .str text

/-- Each value is refused, or its property has it before. -/
def AllRedundant (t : T) : Prop :=
  ∀ property ∈ properties,
    SBController.jsValToString property.2 = "" ∨
      host.getProperty t property.1 = some (SBController.jsValToString property.2)

end Outcome

/-! ## What it does -/

/-- A list of properties with names of their own, none of them special. -/
structure PlainNames (properties : List (String × JsVal)) : Prop where
  nulFree : ∀ property ∈ properties, NulFree property.1
  named : ∀ property ∈ properties, property.1 ≠ ""
  plain : ∀ property ∈ properties, property.1 ≠ "log-id"
  nodup : (properties.map Prod.fst).Nodup

theorem localRegProperties_plainNames (a1 realm expires : JsVal) :
    PlainNames (localRegProperties a1 realm expires) := by
  have plain : ∀ name ∈ ["invoke-local-handler", "auth-a1-hash", "auth-realm", "reg-expires"],
      NulFree name ∧ name ≠ "" ∧ name ≠ "log-id" := by
    intro name mem
    simp only [List.mem_cons, List.not_mem_nil, or_false] at mem
    rcases mem with rfl | rfl | rfl | rfl <;> decide
  have names (property) (mem : property ∈ localRegProperties a1 realm expires) :=
    plain property.1 (List.mem_map_of_mem mem)
  refine ⟨fun p mem => (names p mem).1, fun p mem => (names p mem).2.1,
    fun p mem => (names p mem).2.2, ?_⟩
  change ["invoke-local-handler", "auth-a1-hash", "auth-realm", "reg-expires"].Nodup
  decide

section Taken

variable {host : SipHost T} {properties : List (String × JsVal)}

/-- After a list of properties each one is its own value, or what it was where the
value is refused. -/
theorem getProperty_taken (map : host.StringMap) (names : PlainNames properties) (t : T)
    {property : String × JsVal} (mem : property ∈ properties) :
    host.getProperty (assignAll host.setProperty t (taken properties)) property.1 =
      if SBController.jsValToString property.2 = "" then host.getProperty t property.1
      else some (SBController.jsValToString property.2) := by
  have assignment (p : String × JsVal) (mem : p ∈ properties) :
      SBController.assignment (.str p.1) p.2 =
        if SBController.jsValToString p.2 = "" then none
        else some (p.1, SBController.jsValToString p.2) := by
    unfold SBController.assignment
    simp only [jsValToString_str (names.nulFree p mem), names.named p mem, false_or]
  unfold taken
  rw [map.get_assignAll, lastValue_of_only mem]
  · rw [assignment property mem]
    split <;> simp
  · intro a made
    rw [assignment property mem] at made
    split at made
    · cases made
    · cases made
      rfl
  · intro other otherMem value made
    rw [assignment other otherMem] at made
    split at made
    · cases made
    · obtain ⟨same, -⟩ := Prod.mk.inj (Option.some.inj made)
      exact List.inj_on_of_nodup_map names.nodup otherMem mem same

theorem transactionProperty_plain (names : PlainNames properties) (w : World T RouteScript)
    {i k : Nat} (transaction : (w.messages i).userData = some k) {property : String × JsVal}
    (mem : property ∈ properties) :
    w.transactionProperty host i (.str property.1) =
      .str (cStr ((host.getProperty (w.transactions k) property.1).getD "")) :=
  World.transactionProperty_str w transaction (names.nulFree property mem)
    (names.named property mem) (names.plain property mem)

/-- A property reads as its value afterwards if the value is a non-empty string, or it
read so before. -/
theorem reads_iff (map : host.StringMap) (names : PlainNames properties)
    (numText : JsNumber → String) (t : T) {property : String × JsVal} (mem : property ∈ properties) :
    (∃ text, property.2.text numText = some text ∧
      cStr ((host.getProperty (assignAll host.setProperty t (taken properties))
        property.1).getD "") = text) ↔
      (∃ s, property.2 = .str s ∧ s ≠ "" ∧ NulFree s) ∨
        ∃ text, property.2.text numText = some text ∧
          cStr ((host.getProperty t property.1).getD "") = text := by
  rw [getProperty_taken map names t mem]
  cases property.2 with
  | str s =>
      simp only [JsVal.text, Option.some.injEq, exists_eq_left', JsVal.str.injEq]
      change cStr ((if cStr s = "" then _ else some (cStr s)).getD "") = s ↔ _
      by_cases nulFree : NulFree s
      case neg =>
        have differs (text : String) : cStr text ≠ s := by
          intro same
          exact nulFree (same ▸ cStr_nulFree text)
        simp [differs, nulFree]
      rw [cStr_eq_self nulFree]
      by_cases filled : s = ""
      case pos => simp [filled]
      case neg => simp [filled, nulFree, cStr_eq_self nulFree]
  | num n => simp [JsVal.text, SBController.jsValToString]
  | _ => simp [JsVal.text]

/-- No property differs afterwards if every value is refused or was there before. -/
theorem noneDiffers_iff (map : host.StringMap) (names : PlainNames properties) (t : T) :
    NoneDiffers host properties t (assignAll host.setProperty t (taken properties)) ↔
      AllRedundant host properties t := by
  apply forall₂_congr
  intro property mem
  rw [getProperty_taken map names t mem]
  split
  case isTrue refused => simp [refused]
  case isFalse filled =>
    rw [or_iff_right filled]
    exact eq_comm

end Taken

section Call

variable {host : SipHost T} {this : RouteObject} {i : Nat} {w : World T RouteScript}

theorem allOrNothing_assigned_iff (map : host.StringMap) (numText : JsNumber → String)
    {properties : List (String × JsVal)} (names : PlainNames properties) {k : Nat}
    (transaction : (w.messages i).userData = some k)
    (register : (w.messages i).method = some "REGISTER") :
    AllOrNothing host numText i properties w (w.assignProperties host i (taken properties)) ↔
      AllSettle host numText i properties w ∨
        AllRedundant host properties (w.transactions k) := by
  have after : ((w.assignProperties host i (taken properties)).messages i).userData = some k := by
    rw [World.assignProperties_messages, transaction]
  have assigned : (w.assignProperties host i (taken properties)).transactions k =
      assignAll host.setProperty (w.transactions k) (taken properties) := by
    rw [World.assignProperties_of_some w transaction, World.onTransaction_transactions_self]
  unfold AllOrNothing
  rw [transaction]
  dsimp only
  rw [if_pos register, assigned, noneDiffers_iff map names]
  apply or_congr_left
  apply forall₂_congr
  intro property mem
  rw [transactionProperty_plain names w transaction mem,
    transactionProperty_plain names _ after mem, assigned]
  simp only [JsVal.str.injEq]
  exact reads_iff map names numText _ mem

end Call

/-- `handleLocalReg` sets up all or nothing exactly when the message is no REGISTER with a
transaction, or each value is a non-empty string or what its property read as before,
or each value is refused or what its property had before. -/
theorem local_registration_all_or_nothing_iff {host : SipHost T} (map : host.StringMap)
    (reads : host.IsRequestReads) (exact : host.IsRequestExact) (numText : JsNumber → String)
    {this : RouteObject} {i : Nat} {w : World T RouteScript}
    (bound : w.script this = some ⟨.handle i⟩) (a1 realm expires : JsVal) :
    ∃ w', handleLocalReg host this a1 realm expires w = .ok () w' ∧
      (AllOrNothing host numText i (localRegProperties a1 realm expires) w w' ↔
        ∀ k, (w.messages i).userData = some k → (w.messages i).method = some "REGISTER" →
          AllSettle host numText i (localRegProperties a1 realm expires) w ∨
            AllRedundant host (localRegProperties a1 realm expires) (w.transactions k)) := by
  have names := localRegProperties_plainNames a1 realm expires
  refine ⟨_, handleLocalReg_bound reads exact bound a1 realm expires, ?_⟩
  unfold localReg
  cases transaction : (w.messages i).userData with
  | none =>
      rw [World.assignProperties_of_none w transaction]
      simp [AllOrNothing, transaction]
  | some k =>
      by_cases register : (w.messages i).method = some "REGISTER"
      case neg =>
        rw [if_neg register, World.assignProperties_nil]
        simp [AllOrNothing, transaction, register]
      case pos =>
        rw [if_pos register, allOrNothing_assigned_iff map numText names transaction register]
        simp [register]

/-- Three strings are set up. -/
theorem local_registration_complete :
    ∃ w', handleLocalReg memoryHost .route (.str "hash") (.str "example.com") (.str "3600")
        registerWorld = .ok () w' ∧
      AllOrNothing memoryHost (fun _ => "3600") 0
        (localRegProperties (.str "hash") (.str "example.com") (.str "3600")) registerWorld w' := by
  obtain ⟨w', run, complete⟩ := local_registration_all_or_nothing_iff memoryHost_stringMap
    memoryHost_isRequestReads memoryHost_isRequestExact (fun _ => "3600")
    (show registerWorld.script .route = some ⟨.handle 0⟩ from rfl) (.str "hash")
    (.str "example.com") (.str "3600")
  refine ⟨w', run, complete.mpr fun k _ _ => Or.inl fun property mem => Or.inl ?_⟩
  unfold localRegProperties at mem
  simp only [List.mem_cons, List.not_mem_nil, or_false] at mem
  rcases mem with rfl | rfl | rfl | rfl
  · exact ⟨"1", rfl, by decide, by decide⟩
  · exact ⟨"hash", rfl, by decide, by decide⟩
  · exact ⟨"example.com", rfl, by decide, by decide⟩
  · exact ⟨"3600", rfl, by decide, by decide⟩

/-- An expiry passed as a number is lost, and the local handler invoked without it. -/
theorem local_registration_without_expiry :
    ∃ w', handleLocalReg memoryHost .route (.str "hash") (.str "example.com")
        (.num (.finite 3600)) registerWorld = .ok () w' ∧
      ¬ AllOrNothing memoryHost (fun _ => "3600") 0
        (localRegProperties (.str "hash") (.str "example.com") (.num (.finite 3600)))
        registerWorld w' := by
  refine ⟨_, handleLocalReg_bound memoryHost_isRequestReads memoryHost_isRequestExact rfl _ _ _, ?_⟩
  have names := localRegProperties_plainNames (.str "hash") (.str "example.com")
    (.num (.finite 3600))
  intro outcome
  rcases (allOrNothing_assigned_iff memoryHost_stringMap (fun _ => "3600") names
    (show (registerWorld.messages 0).userData = some 0 from rfl) rfl).mp outcome with
    settles | redundant
  · rcases settles ("reg-expires", .num (.finite 3600)) (by simp [localRegProperties]) with
      ⟨s, string, -⟩ | ⟨text, value, reads⟩
    · cases string
    · cases value
      exact absurd reads (by decide)
  · rcases redundant ("invoke-local-handler", .str "1") (by simp [localRegProperties]) with
      refused | present
    · exact absurd refused (by decide)
    · exact absurd present (by decide)

end SipXsbc
