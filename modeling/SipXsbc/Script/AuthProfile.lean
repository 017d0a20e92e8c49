import SipXsbc.Script.Bridge

/-!
# Authentication profiles

`AccessList`, `TransactionProfile` and `AuthProfile`, the classes that decide
whether a request is trusted and give its transaction the properties of the
profile. `verify_decides` says what the verdict is and what it leaves behind.
-/

namespace SipXsbc

open Keyed

/-! ## The classes -/

structure AccessList where
  trustedNetwork : List JsVal := []
  trustEveryone : JsVal := .bool false

structure PropertyObject where
  name : JsVal
  value : JsVal
  requestType : JsVal

/-- The own properties of one object. The constructor does not run that of
`TransactionProfile`, so it has no `_transactionParams` at first. -/
structure AuthProfile where
  accessList : AccessList := {}
  transactionParams : Option (List PropertyObject) := none

/-- The objects of a script, and the `_transactionParams` of the object that is
the prototype of them all. -/
structure AuthScript where
  prototypeParams : List PropertyObject := []
  profiles : Nat → AuthProfile := fun _ => {}

/-- What a profile reads as its `_transactionParams`. -/
def AuthScript.transactionParams (script : AuthScript) (p : Nat) : List PropertyObject :=
  (script.profiles p).transactionParams.getD script.prototypeParams

variable {T : Type}

namespace AccessList

variable {S : Type} (host : SipHost T)

/-- The loop over the trusted networks, and what follows it. -/
def verifyNetworks (sipMessage : SIPMessage) (sourceAddress : JsVal) :
    List JsVal → Js T S Bool
  | [] => do
      sipMessage.setProperty host (.str "auth-action") (.str "reject")
      return false
  | network :: networks => do
      let _ ← sipMessage.getLogId host
      if host.cidrVerify sourceAddress network then
        sipMessage.setProperty host (.str "auth-action") (.str "accept")
        return true
      else
        verifyNetworks sipMessage sourceAddress networks

def verify (this : AccessList) (request : JsVal) : Js T S Bool := do
  let sipMessage : SIPMessage := ⟨request⟩
  if this.trustEveryone.truthy then
    sipMessage.setProperty host (.str "auth-action") (.str "accept")
    return true
  else
    let sourceAddress ← sipMessage.getSourceAddress host
    verifyNetworks host sipMessage sourceAddress this.trustedNetwork

end AccessList

namespace TransactionProfile

variable {S : Type} (host : SipHost T)

/-- One round of the loop over the entries. -/
def setProperty (sipMessage : SIPMessage) (property : PropertyObject) : Js T S Unit := do
  if property.requestType.looselyEquals "*" then
    sipMessage.setTransactionProperty host property.name property.value
  else
    let isRequest ← sipMessage.isRequest host property.requestType
    if isRequest.truthy then
      sipMessage.setTransactionProperty host property.name property.value

def setProperties (sipMessage : SIPMessage) : List PropertyObject → Js T S Bool
  | [] => return true
  | property :: params => do
      setProperty host sipMessage property
      setProperties sipMessage params

end TransactionProfile

namespace AuthProfile

def verify (host : SipHost T) (this : Nat) (request : JsVal) : Js T AuthScript Bool := do
  let sipMessage : SIPMessage := ⟨request⟩
  let accessList := ((← get).script.profiles this).accessList
  if ← accessList.verify host request then
    let params := (← get).script.transactionParams this
    TransactionProfile.setProperties host sipMessage params
  else
    return false

end AuthProfile

/-! ## What the loops do -/

/-- The verdict on a source address. -/
def AccessList.trusts (host : SipHost T) (this : AccessList) (source : JsVal) : Bool :=
  this.trustEveryone.truthy || this.trustedNetwork.any (host.cidrVerify source)

theorem AccessList.trusts_iff {host : SipHost T} {this : AccessList} {source : JsVal} :
    this.trusts host source = true ↔ this.trustEveryone.truthy ∨
      ∃ network ∈ this.trustedNetwork, host.cidrVerify source network = true := by
  unfold AccessList.trusts
  rw [Bool.or_eq_true, List.any_eq_true]

/-- Order and repetition of the networks do not matter. -/
theorem AccessList.trusts_congr {host : SipHost T} {this other : AccessList}
    (everyone : other.trustEveryone = this.trustEveryone)
    (networks : ∀ network, network ∈ other.trustedNetwork ↔ network ∈ this.trustedNetwork)
    (source : JsVal) : other.trusts host source = this.trusts host source := by
  rw [Bool.eq_iff_iff, trusts_iff, trusts_iff]
  simp only [everyone, networks]

/-- What verification notes on the message. -/
def Message.authAction (verdict : Bool) (m : Message) : Message :=
  m.setProperty "auth-action" (if verdict then "accept" else "reject")

namespace PropertyObject

/-- The entry is for every request or for one of its methods. -/
def applies (host : SipHost T) (m : Message) (property : PropertyObject) : Bool :=
  property.requestType.looselyEquals "*" ||
    (host.call .msgIsRequest [property.requestType] m).1.truthy

/-- The property that an entry sets, if the export does not refuse it. -/
def assignment (host : SipHost T) (m : Message) (property : PropertyObject) :
    Option (String × String) :=
  let name := SBController.jsValToString property.name
  let value := SBController.jsValToString property.value
  if property.applies host m ∧ ¬ (name = "" ∨ value = "") then some (name, value) else none

end PropertyObject

/-- The transaction of a message takes what the entries set. -/
def World.setProperties {S : Type} (host : SipHost T) (i : Nat) (params : List PropertyObject)
    (w : World T S) : World T S :=
  match (w.messages i).userData with
  | none => w
  | some k =>
      w.onTransaction k fun t =>
        assignAll host.setProperty t (params.filterMap (·.assignment host (w.messages i)))

section Loops

variable {S : Type} {host : SipHost T} (i : Nat) (w : World T S)

theorem verifyNetworks_handle (sets : host.SetsProperties) (source : JsVal)
    (networks : List JsVal) :
    AccessList.verifyNetworks host ⟨.handle i⟩ source networks w =
      .ok (networks.any (host.cidrVerify source))
        (w.onMessage i (Message.authAction (networks.any (host.cidrVerify source)))) := by
  induction networks with
  | nil => exact and_then (setProperty_handle host i w sets (by decide) (by decide)) rfl
  | cons network networks ih =>
      unfold AccessList.verifyNetworks
      rw [List.any_cons]
      apply bind_of_quiet (getLogId_handle host i w)
      intro logId
      cases host.cidrVerify source network with
      | true =>
          rw [if_pos rfl]
          exact and_then (setProperty_handle host i w sets (by decide) (by decide)) rfl
      | false =>
          rw [if_neg Bool.false_ne_true, Bool.false_or]
          exact ih

theorem accessList_verify_handle (sets : host.SetsProperties) (this : AccessList) :
    this.verify host (.handle i) w =
      .ok (this.trusts host (w.sourceAddress host i))
        (w.onMessage i (Message.authAction (this.trusts host (w.sourceAddress host i)))) := by
  unfold AccessList.verify AccessList.trusts
  cases this.trustEveryone.truthy with
  | true =>
      rw [if_pos rfl, Bool.true_or]
      exact and_then (setProperty_handle host i w sets (by decide) (by decide)) rfl
  | false =>
      rw [if_neg Bool.false_ne_true, Bool.false_or]
      exact and_then (getSourceAddress_handle host i w) (verifyNetworks_handle i w sets _ _)

theorem World.setProperties_of_none (noTransaction : (w.messages i).userData = none)
    (params : List PropertyObject) : w.setProperties host i params = w := by
  unfold World.setProperties
  rw [noTransaction]

theorem World.setProperties_of_some {k : Nat} (transaction : (w.messages i).userData = some k)
    (params : List PropertyObject) :
    w.setProperties host i params = w.onTransaction k fun t =>
      assignAll host.setProperty t (params.filterMap (·.assignment host (w.messages i))) := by
  unfold World.setProperties
  rw [transaction]

theorem World.setProperties_messages (params : List PropertyObject) :
    (w.setProperties host i params).messages = w.messages := by
  unfold World.setProperties
  cases (w.messages i).userData <;> rfl

/-- Entries that set nothing change nothing. -/
theorem World.setProperties_eq_self {params : List PropertyObject}
    (nothing : params.filterMap (·.assignment host (w.messages i)) = []) :
    w.setProperties host i params = w := by
  unfold World.setProperties
  cases (w.messages i).userData with
  | none => rfl
  | some k =>
      dsimp only
      rw [nothing]
      exact World.onTransaction_eq_self w k rfl

theorem World.setProperties_cons (property : PropertyObject) (params : List PropertyObject) :
    w.setProperties host i (property :: params) =
      (w.setProperties host i [property]).setProperties host i params := by
  cases transaction : (w.messages i).userData with
  | none =>
      rw [World.setProperties_of_none i w transaction, World.setProperties_of_none i w transaction,
        World.setProperties_of_none i w transaction]
  | some k =>
      rw [World.setProperties_of_some i w transaction, World.setProperties_of_some i w transaction]
      refine Eq.trans ?_ (World.setProperties_of_some i (w.onTransaction k _) transaction params).symm
      rw [World.onTransaction_onTransaction]
      cases assigned : property.assignment host (w.messages i) with
      | none => rw [List.filterMap_cons_none assigned, List.filterMap_cons_none assigned]; rfl
      | some a => rw [List.filterMap_cons_some assigned, List.filterMap_cons_some assigned]; rfl

/-- An entry that applies asks for its property to be set. -/
theorem World.setProperties_single (property : PropertyObject) :
    w.setProperties host i [property] =
      if property.applies host (w.messages i) then
        w.setTransactionProperty host i property.name property.value
      else w := by
  cases applies : property.applies host (w.messages i) with
  | false =>
      have refused : property.assignment host (w.messages i) = none := by
        unfold PropertyObject.assignment
        simp only [applies, Bool.false_eq_true, false_and, if_false]
      rw [if_neg Bool.false_ne_true]
      exact World.setProperties_eq_self i w (List.filterMap_cons_none refused)
  | true =>
      rw [if_pos rfl]
      unfold World.setTransactionProperty
      cases transaction : (w.messages i).userData with
      | none => exact World.setProperties_of_none i w transaction [property]
      | some k =>
          dsimp only
          split
          case isTrue empty =>
            have refused : property.assignment host (w.messages i) = none := by
              unfold PropertyObject.assignment
              simp only [empty, not_true, and_false, if_false]
            exact World.setProperties_eq_self i w (List.filterMap_cons_none refused)
          case isFalse filled =>
            have made : property.assignment host (w.messages i) =
                some (SBController.jsValToString property.name,
                  SBController.jsValToString property.value) := by
              unfold PropertyObject.assignment
              exact if_pos ⟨applies, filled⟩
            rw [World.setProperties_of_some i w transaction, List.filterMap_cons_some made]
            rfl

theorem setProperty_loop_handle (reads : host.IsRequestReads) (property : PropertyObject) :
    TransactionProfile.setProperty host ⟨.handle i⟩ property w =
      .ok () (w.setProperties host i [property]) := by
  rw [World.setProperties_single]
  unfold TransactionProfile.setProperty PropertyObject.applies
  cases property.requestType.looselyEquals "*" with
  | true =>
      rw [if_pos rfl, Bool.true_or, if_pos rfl]
      exact setTransactionProperty_handle host i w property.name property.value
  | false =>
      rw [if_neg Bool.false_ne_true, Bool.false_or]
      refine and_then (isRequest_handle host i w reads property.requestType) ?_
      split
      · exact setTransactionProperty_handle host i w property.name property.value
      · rfl

theorem setProperties_handle (reads : host.IsRequestReads) (params : List PropertyObject) :
    TransactionProfile.setProperties host ⟨.handle i⟩ params w =
      .ok true (w.setProperties host i params) := by
  induction params generalizing w with
  | nil =>
      rw [World.setProperties_eq_self i w rfl]
      rfl
  | cons property params ih =>
      rw [World.setProperties_cons]
      exact and_then (setProperty_loop_handle i w reads property) (ih _)

end Loops

/-- What verification by a profile does to the world. -/
def World.verified (host : SipHost T) (p i : Nat) (w : World T AuthScript) : World T AuthScript :=
  let verdict := (w.script.profiles p).accessList.trusts host (w.sourceAddress host i)
  let noted := w.onMessage i (Message.authAction verdict)
  if verdict then noted.setProperties host i (w.script.transactionParams p) else noted

theorem verify_handle {host : SipHost T} (sets : host.SetsProperties)
    (reads : host.IsRequestReads) (p i : Nat) (w : World T AuthScript) :
    AuthProfile.verify host p (.handle i) w =
      .ok ((w.script.profiles p).accessList.trusts host (w.sourceAddress host i))
        (w.verified host p i) := by
  unfold AuthProfile.verify World.verified
  rw [get_bind]
  refine and_then (accessList_verify_handle i w sets _) ?_
  cases (w.script.profiles p).accessList.trusts host (w.sourceAddress host i) with
  | false => rfl
  | true =>
      rw [if_pos rfl, get_bind, if_pos rfl]
      exact setProperties_handle i _ reads _

section Verified

variable {host : SipHost T} {p i : Nat} {w : World T AuthScript}

theorem World.verified_of_refused (refused :
    (w.script.profiles p).accessList.trusts host (w.sourceAddress host i) = false) :
    w.verified host p i = w.onMessage i (Message.authAction false) := by
  unfold World.verified
  rw [refused]
  rfl

theorem World.verified_of_admitted (admitted :
    (w.script.profiles p).accessList.trusts host (w.sourceAddress host i) = true) :
    w.verified host p i = (w.onMessage i (Message.authAction true)).setProperties host i
      (w.script.transactionParams p) := by
  unfold World.verified
  rw [admitted]
  rfl

theorem World.verified_messages :
    (w.verified host p i).messages = (w.onMessage i (Message.authAction
      ((w.script.profiles p).accessList.trusts host (w.sourceAddress host i)))).messages := by
  cases verdict : (w.script.profiles p).accessList.trusts host (w.sourceAddress host i) with
  | true => rw [verified_of_admitted verdict, setProperties_messages]
  | false => rw [verified_of_refused verdict]

end Verified

/-! ## The verdict and what is left behind -/

/-- The three fields are strings without a NUL. -/
def PropertyObject.Textual (property : PropertyObject) : Prop :=
  ∃ name value requestType, property = ⟨.str name, .str value, .str requestType⟩ ∧
    NulFree name ∧ NulFree value ∧ NulFree requestType

/-- The value an entry has for a property of a request, when its type is the
method or the wildcard and neither its name nor its value is empty. -/
def PropertyObject.valueFor (method : Option String) (x : String) :
    PropertyObject → Option String
  | ⟨.str name, .str value, .str requestType⟩ =>
      if name = x ∧ name ≠ "" ∧ value ≠ "" ∧ (requestType = "*" ∨ method = some requestType) then
        some value
      else none
  | _ => none

/-- The value of the last entry there is for a property. -/
def lastEntry (method : Option String) (x : String) (params : List PropertyObject) :
    Option String :=
  (params.filterMap (·.valueFor method x)).getLast?

theorem applies_iff {host : SipHost T} (exact : host.IsRequestExact) (m : Message)
    (name value : JsVal) (requestType : String) :
    PropertyObject.applies host m ⟨name, value, .str requestType⟩ = true ↔
      requestType = "*" ∨ m.method = some requestType := by
  unfold PropertyObject.applies JsVal.looselyEquals
  rw [exact]
  simp

/-- An entry is for a property when the assignment it makes is to that name. -/
theorem valueFor_eq {host : SipHost T} (exact : host.IsRequestExact) {property : PropertyObject}
    (textual : property.Textual) (m : Message) (x : String) :
    property.valueFor m.method x =
      (property.assignment host m).bind fun a => if a.1 = x then some a.2 else none := by
  obtain ⟨name, value, requestType, rfl, nameFree, valueFree, -⟩ := textual
  unfold PropertyObject.assignment PropertyObject.valueFor SBController.jsValToString
  dsimp only
  rw [cStr_eq_self nameFree, cStr_eq_self valueFree]
  by_cases made : PropertyObject.applies host m ⟨.str name, .str value, .str requestType⟩ = true ∧
      ¬ (name = "" ∨ value = "")
  case pos =>
    have filled := not_or.mp made.2
    rw [if_pos made, Option.bind_some]
    simp only [filled.1, filled.2, (applies_iff exact m _ _ _).mp made.1, ne_eq, not_false_eq_true,
      and_true]
  case neg =>
    rw [if_neg made, Option.bind_none]
    apply if_neg
    intro given
    rcases given with ⟨-, named, filled, applies⟩
    exact made ⟨(applies_iff exact m _ _ _).mpr applies, not_or.mpr ⟨named, filled⟩⟩

theorem lastEntry_eq {host : SipHost T} (exact : host.IsRequestExact)
    {params : List PropertyObject} (textual : ∀ e ∈ params, e.Textual) (m : Message) (x : String) :
    lastEntry m.method x params = lastValue (params.filterMap (·.assignment host m)) x := by
  unfold lastEntry lastValue
  rw [← List.getLast?_filterMap, List.filterMap_filterMap]
  congr 1
  apply List.filterMap_congr
  intro property mem
  exact valueFor_eq exact (textual property mem) m x

/-- A value that an entry has is one of the texts in the list. -/
theorem lastEntry_nulFree {method : Option String} {x value : String}
    {params : List PropertyObject} (textual : ∀ e ∈ params, e.Textual)
    (found : lastEntry method x params = some value) : NulFree value := by
  obtain ⟨property, mem, has⟩ := List.mem_filterMap.mp (List.mem_of_getLast? found)
  obtain ⟨name, value', requestType, rfl, -, valueFree, -⟩ := textual property mem
  unfold PropertyObject.valueFor at has
  rw [Option.ite_none_right_eq_some] at has
  cases has.2
  exact valueFree

theorem lastEntry_empty (method : Option String) (params : List PropertyObject) :
    lastEntry method "" params = none := by
  unfold lastEntry
  rw [List.getLast?_eq_none_iff, List.filterMap_eq_nil_iff]
  intro property _
  unfold PropertyObject.valueFor
  split
  · exact if_neg fun has => has.2.1 has.1
  · rfl

/-- A property of the transaction after the assignments were made: the value of
the last entry for it, or the one it had. -/
theorem getProperty_setProperties {S : Type} {host : SipHost T} (map : host.StringMap)
    (exact : host.IsRequestExact) {params : List PropertyObject}
    (textual : ∀ e ∈ params, e.Textual) (i : Nat) (w : World T S) {k : Nat}
    (transaction : (w.messages i).userData = some k) (x : String) :
    host.getProperty ((w.setProperties host i params).transactions k) x =
      (lastEntry (w.messages i).method x params).or (host.getProperty (w.transactions k) x) := by
  rw [World.setProperties_of_some i w transaction, World.onTransaction_transactions_self,
    map.get_assignAll, lastEntry_eq exact textual]

/-- What a script reads then. -/
theorem transactionProperty_setProperties {S : Type} {host : SipHost T} (map : host.StringMap)
    (exact : host.IsRequestExact) {params : List PropertyObject}
    (textual : ∀ e ∈ params, e.Textual) (i : Nat) (w : World T S) {k : Nat}
    (transaction : (w.messages i).userData = some k) {x : String} (nulFree : NulFree x)
    (unreserved : x ≠ "log-id") :
    (w.setProperties host i params).transactionProperty host i (.str x) =
      (lastEntry (w.messages i).method x params).elim (w.transactionProperty host i (.str x))
        .str := by
  have name : SBController.jsValToString (.str x) = x := cStr_eq_self nulFree
  have later : ((w.setProperties host i params).messages i).userData = some k := by
    rw [World.setProperties_messages, transaction]
  unfold World.transactionProperty
  simp only [later, transaction, name]
  by_cases empty : x = ""
  case pos =>
    rw [if_pos empty, if_pos empty, empty, lastEntry_empty]
    rfl
  rw [if_neg empty, if_neg unreserved, if_neg empty, if_neg unreserved,
    getProperty_setProperties map exact textual i w transaction]
  cases found : lastEntry (w.messages i).method x params with
  | none => rfl
  | some value =>
      rw [Option.some_or, Option.getD_some, cStr_eq_self (lastEntry_nulFree textual found)]
      rfl

/-- The verdict of a profile on a request and all that verification leaves on the
messages and the transactions. -/
theorem verify_decides {host : SipHost T} (map : host.StringMap) (sets : host.SetsProperties)
    (reads : host.IsRequestReads) (exact : host.IsRequestExact) (w : World T AuthScript)
    (p i k : Nat) (transaction : (w.messages i).userData = some k)
    (textual : ∀ e ∈ w.script.transactionParams p, e.Textual) :
    ∃ verdict w', AuthProfile.verify host p (.handle i) w = .ok verdict w' ∧
      (verdict = true ↔ (w.script.profiles p).accessList.trustEveryone.truthy ∨
        ∃ network ∈ (w.script.profiles p).accessList.trustedNetwork,
          host.cidrVerify (w.sourceAddress host i) network = true) ∧
      w'.messages = (w.onMessage i (Message.setProperty "auth-action"
        (if verdict then "accept" else "reject"))).messages ∧
      (∀ q, (w.script.profiles q).accessList.trustEveryone =
          (w.script.profiles p).accessList.trustEveryone →
        (∀ network, network ∈ (w.script.profiles q).accessList.trustedNetwork ↔
          network ∈ (w.script.profiles p).accessList.trustedNetwork) →
        ∃ w'', AuthProfile.verify host q (.handle i) w = .ok verdict w'') ∧
      (verdict = false → w'.transactions = w.transactions) ∧
      (verdict = true → ∀ x, NulFree x → x ≠ "log-id" →
        w'.transactionProperty host i (.str x) =
          (lastEntry (w.messages i).method x (w.script.transactionParams p)).elim
            (w.transactionProperty host i (.str x)) .str) ∧
      (verdict = true → ∀ x, host.getProperty (w'.transactions k) x =
        (lastEntry (w.messages i).method x (w.script.transactionParams p)).or
          (host.getProperty (w.transactions k) x)) := by
  have still (verdict : Bool) :
      ((w.onMessage i (Message.authAction verdict)).messages i).userData = some k := by
    rw [World.onMessage_messages_self]
    exact transaction
  refine ⟨_, _, verify_handle sets reads p i w, AccessList.trusts_iff,
    World.verified_messages, ?_, ?_, ?_, ?_⟩
  · intro q everyone networks
    refine ⟨w.verified host q i, ?_⟩
    rw [verify_handle sets reads q i w, AccessList.trusts_congr everyone networks]
  · intro rejected
    rw [World.verified_of_refused rejected]
    rfl
  · intro accepted x nulFree unreserved
    rw [World.verified_of_admitted accepted]
    have noted : ((w.onMessage i (Message.authAction true)).messages i) =
        (w.messages i).authAction true := World.onMessage_messages_self w i
    have same : (w.onMessage i (Message.authAction true)).transactionProperty host i (.str x) =
        w.transactionProperty host i (.str x) := by
      unfold World.transactionProperty
      rw [noted]
      rfl
    refine (transactionProperty_setProperties map exact textual i _ (still true) nulFree
      unreserved).trans ?_
    rw [same, noted]
    rfl
  · intro accepted x
    rw [World.verified_of_admitted accepted]
    refine (getProperty_setProperties map exact textual i _ (still true) x).trans ?_
    rw [World.onMessage_messages_self]
    rfl

/-- Messages that are INVITEs from one address, and profiles of one script. -/
def inviteWorld (script : AuthScript) : World MemoryTransaction AuthScript where
  messages _ :=
    { method := some "INVITE"
      requestUri := ⟨some "alice", "192.168.1.10"⟩
      fromUri := ⟨some "bob", "10.0.0.1"⟩
      toUri := ⟨some "alice", "192.168.1.10"⟩
      headers := []
      properties := fun _ => none
      userData := some 0 }
  transactions _ := ⟨"log", some ⟨⟨"10.0.0.1", 5060⟩, ⟨"192.168.1.10", 5060⟩⟩, fun _ => none⟩
  defaultTargetDomain := ""
  script := script

/-- A profile that trusts two networks and sets one property for some methods. -/
def networkScript : AuthScript where
  prototypeParams :=
    [⟨.str "trunk", .str "any", .str "*"⟩, ⟨.str "trunk", .str "invite", .str "INVITE"⟩,
      ⟨.str "trunk", .str "bye", .str "BYE"⟩, ⟨.str "trunk", .str "", .str "*"⟩]
  profiles _ :=
    { accessList := { trustedNetwork := [.str "10.0.0.2/32", .str "10.0.0.1/32"] } }

theorem verify_decides_invite :
    ∃ w', AuthProfile.verify memoryHost 0 (.handle 0) (inviteWorld networkScript) = .ok true w' ∧
      w'.transactionProperty memoryHost 0 (.str "trunk") = .str "invite" := by
  obtain ⟨verdict, w', run, trusted, -, -, -, reading, -⟩ :=
    verify_decides memoryHost_stringMap memoryHost_setsProperties memoryHost_isRequestReads
      memoryHost_isRequestExact (inviteWorld networkScript) 0 0 0 rfl (by
        intro property mem
        simp only [networkScript, inviteWorld, AuthScript.transactionParams, Option.getD_none,
          List.mem_cons, List.not_mem_nil, or_false] at mem
        rcases mem with rfl | rfl | rfl | rfl
        all_goals exact ⟨_, _, _, rfl, by decide, by decide, by decide⟩)
  have accepted : verdict = true := trusted.mpr (Or.inr ⟨.str "10.0.0.1/32", by decide, by decide⟩)
  subst accepted
  exact ⟨w', run, reading rfl "trunk" (by decide) (by decide)⟩

/-- A profile that trusts everyone, with an entry that has no name. -/
def unnamedScript : AuthScript where
  prototypeParams := [⟨.str "", .str "1", .str "*"⟩]
  profiles _ := { accessList := { trustEveryone := .bool true } }

/-- An entry without a name is refused by the export, so its value is not read,
although it is not empty and the entry is for every request. -/
theorem verify_unnamed_entry :
    ∃ w', AuthProfile.verify memoryHost 0 (.handle 0) (inviteWorld unnamedScript) = .ok true w' ∧
      w'.transactionProperty memoryHost 0 (.str "") ≠ .str "1" ∧
      memoryHost.getProperty (w'.transactions 0) "" ≠ some "1" :=
  ⟨_, rfl, by decide, by decide⟩

end SipXsbc
