import SipXsbc.Script.World

/-!
# The functions the controller exports to its scripts

The exports of `SBController` on the messages and transactions of the stack, and
the methods of `SIPMessage` that the scripts use. On the handle of a message every
one of them ends normally; its effect on the world is given by an equation.
-/

namespace SipXsbc

open Keyed

variable {T S : Type}

/-! ## Exports -/

/-- Not a string with a NUL in it. -/
def JsVal.NulFree : JsVal → Prop
  | str s => SipXsbc.NulFree s
  | _ => True

instance : DecidablePred JsVal.NulFree
  | .str s => inferInstanceAs (Decidable (NulFree s))
  | .undefined | .null | .bool _ | .num _ | .obj _ _ => .isTrue trivial

namespace SBController

/-- The message in the first argument. An object must have the message's pointer
in its first internal field. -/
def jsUnwrapRequest : List JsVal → Js T S (Option Nat)
  | .obj (.external .null :: _) _ :: _ => return none
  | .obj (.external (.message i) :: _) _ :: _ => return some i
  | .obj _ _ :: _ => throw .fault
  | _ => return none

def jsValToString : JsVal → String
  | .str s => cStr s
  | _ => ""

/-- What the bridge sets for a name and a value, if it does not refuse them. -/
def assignment (name value : JsVal) : Option (String × String) :=
  let name := jsValToString name
  let value := jsValToString value
  if name = "" ∨ value = "" then none else some (name, value)

/-- The transaction of the message in the first argument. -/
def transactionOf (args : List JsVal) : Js T S (Option Nat) := do
  match ← jsUnwrapRequest args with
  | none => return none
  | some i => return ((← get).messages i).userData

def jsMsgSetTransactionProperty (host : SipHost T) (args : List JsVal) : Js T S JsVal := do
  if args.length < 3 then
    return .bool false
  else
    match ← transactionOf args with
    | none => return .bool false
    | some k =>
        let name := jsValToString (args.getD 1 .undefined)
        let value := jsValToString (args.getD 2 .undefined)
        if name.isEmpty || value.isEmpty then
          return .bool false
        else
          modify (·.onTransaction k (host.setProperty · name value))
          return .bool true

def jsMsgGetTransactionProperty (host : SipHost T) (args : List JsVal) : Js T S JsVal := do
  if args.length < 2 then
    return .undefined
  else
    match ← transactionOf args with
    | none => return .undefined
    | some k =>
        let t := (← get).transactions k
        let name := jsValToString (args.getD 1 .undefined)
        if name.isEmpty then
          return .undefined
        else if name == "log-id" then
          return .str (cStr (host.getLogId t))
        else
          return .str (cStr ((host.getProperty t name).getD ""))

/-- An export that reads something of the transport a transaction came in on. -/
def jsMsgGetTransport (host : SipHost T) (read : ServerTransport → JsVal) (args : List JsVal) :
    Js T S JsVal := do
  if args.length < 1 then
    return .undefined
  else
    match ← transactionOf args with
    | none => return .undefined
    | some k =>
        match host.serverTransport ((← get).transactions k) with
        | none => return .undefined
        | some transport => return read transport

def jsMsgGetSourceAddress (host : SipHost T) : List JsVal → Js T S JsVal :=
  jsMsgGetTransport host fun transport => .str (cStr transport.remoteAddress.text)

def jsMsgGetSourcePort (host : SipHost T) : List JsVal → Js T S JsVal :=
  jsMsgGetTransport host fun transport => .num (.finite transport.remoteAddress.port)

def jsMsgGetInterfaceAddress (host : SipHost T) : List JsVal → Js T S JsVal :=
  jsMsgGetTransport host fun transport => .str (cStr transport.localAddress.text)

def jsMsgGetInterfacePort (host : SipHost T) : List JsVal → Js T S JsVal :=
  jsMsgGetTransport host fun transport => .num (.finite transport.localAddress.port)

def jsMsgGetDefaultTargetDomain : Js T S JsVal := do
  let domain := (← get).defaultTargetDomain
  if domain.isEmpty then
    return .undefined
  else
    return .str (cStr domain)

end SBController

theorem jsValToString_str {s : String} (nulFree : NulFree s) :
    SBController.jsValToString (.str s) = s :=
  cStr_eq_self nulFree

/-! ## The class `SIPMessage` -/

/-- The script object around a message handle. -/
structure SIPMessage where
  request : JsVal
  deriving DecidableEq

namespace SIPMessage

open SBController

section Methods

variable (host : SipHost T) (this : SIPMessage)

def getLogId : Js T S JsVal :=
  jsMsgGetTransactionProperty host [this.request, .str "log-id"]

def setProperty (propertyName propertyValue : JsVal) : Js T S Unit := do
  let propertyValue :=
    if propertyValue.typeof == "undefined" then JsVal.str "?" else propertyValue
  let _ ← getLogId host this
  let _ ← host.invoke .msgSetProperty this.request [propertyName, propertyValue]

def setTransactionProperty (propertyName propertyValue : JsVal) : Js T S Unit := do
  let _ ← getLogId host this
  let _ ← jsMsgSetTransactionProperty host [this.request, propertyName, propertyValue]

def getTransactionProperty (propertyName : JsVal) : Js T S JsVal :=
  jsMsgGetTransactionProperty host [this.request, propertyName]

def getSourceAddress : Js T S JsVal :=
  jsMsgGetSourceAddress host [this.request]

def getRequestUriUser : Js T S JsVal :=
  host.invoke .msgGetRequestUriUser this.request []

def setRequestUriUser (user : JsVal) : Js T S Unit := do
  let _ ← host.invoke .msgSetRequestUriUser this.request [user]

def setRequestUriHostPort (hostPort : JsVal) : Js T S Unit := do
  let _ ← host.invoke .msgSetRequestUriHostPort this.request [hostPort]

def getToUser : Js T S JsVal :=
  host.invoke .msgGetToUser this.request []

def setToHostPort (hostPort : JsVal) : Js T S Unit := do
  let _ ← host.invoke .msgSetToHostPort this.request [hostPort]

def setFromHostPort (hostPort : JsVal) : Js T S Unit := do
  let _ ← host.invoke .msgSetFromHostPort this.request [hostPort]

def hdrRemove (headerName : JsVal) : Js T S Unit := do
  let _ ← host.invoke .msgHdrRemove this.request [headerName]

def isRequest (method : JsVal) : Js T S JsVal :=
  host.invoke .msgIsRequest this.request [method]

end Methods

end SIPMessage

/-! ## On the handle of a message -/

namespace World

/-- The message has a transaction, and its name and value are not empty. -/
def acceptsTransactionProperty (i : Nat) (name value : JsVal) (w : World T S) : Bool :=
  (w.messages i).userData.isSome &&
    !((SBController.jsValToString name).isEmpty || (SBController.jsValToString value).isEmpty)

/-- The world after a script asked to set a property of a message's transaction. -/
def setTransactionProperty (host : SipHost T) (i : Nat) (name value : JsVal) (w : World T S) :
    World T S :=
  match (w.messages i).userData with
  | none => w
  | some k =>
      let name := SBController.jsValToString name
      let value := SBController.jsValToString value
      if name = "" ∨ value = "" then w else w.onTransaction k (host.setProperty · name value)

/-- The world after the transaction of a message was given some properties. -/
def assignProperties (host : SipHost T) (i : Nat) (as : List (String × String)) (w : World T S) :
    World T S :=
  match (w.messages i).userData with
  | none => w
  | some k => w.onTransaction k (assignAll host.setProperty · as)

/-- What a script reads as a property of a message's transaction. -/
def transactionProperty (host : SipHost T) (i : Nat) (name : JsVal) (w : World T S) : JsVal :=
  match (w.messages i).userData with
  | none => .undefined
  | some k =>
      let name := SBController.jsValToString name
      if name = "" then .undefined
      else if name = "log-id" then .str (cStr (host.getLogId (w.transactions k)))
      else .str (cStr ((host.getProperty (w.transactions k) name).getD ""))

/-- The address a script reads as the source of a message. -/
def sourceAddress (host : SipHost T) (i : Nat) (w : World T S) : JsVal :=
  match (w.messages i).userData.bind fun k => host.serverTransport (w.transactions k) with
  | none => .undefined
  | some transport => .str (cStr transport.remoteAddress.text)

end World

section Assign

variable {host : SipHost T} {i : Nat} (w : World T S)

@[simp] theorem World.assignProperties_messages (as : List (String × String)) :
    (w.assignProperties host i as).messages = w.messages := by
  unfold World.assignProperties
  cases (w.messages i).userData with
  | none => rfl
  | some k => rfl

@[simp] theorem World.assignProperties_script (as : List (String × String)) :
    (w.assignProperties host i as).script = w.script := by
  unfold World.assignProperties
  cases (w.messages i).userData with
  | none => rfl
  | some k => rfl

theorem World.assignProperties_of_none (noTransaction : (w.messages i).userData = none)
    (as : List (String × String)) : w.assignProperties host i as = w := by
  unfold World.assignProperties
  rw [noTransaction]

theorem World.assignProperties_of_some {k : Nat} (transaction : (w.messages i).userData = some k)
    (as : List (String × String)) :
    w.assignProperties host i as = w.onTransaction k (assignAll host.setProperty · as) := by
  unfold World.assignProperties
  rw [transaction]

theorem World.assignProperties_nil : w.assignProperties host i [] = w := by
  cases transaction : (w.messages i).userData with
  | none => exact assignProperties_of_none w transaction []
  | some k =>
      rw [assignProperties_of_some w transaction]
      exact onTransaction_eq_self w k rfl

theorem World.assignProperties_append (as bs : List (String × String)) :
    w.assignProperties host i (as ++ bs) =
      (w.assignProperties host i as).assignProperties host i bs := by
  cases transaction : (w.messages i).userData with
  | none =>
      rw [assignProperties_of_none w transaction, assignProperties_of_none w transaction,
        assignProperties_of_none w transaction]
  | some k =>
      have after : ((w.assignProperties host i as).messages i).userData = some k := by
        rw [assignProperties_messages, transaction]
      rw [assignProperties_of_some _ after, assignProperties_of_some w transaction,
        assignProperties_of_some w transaction, onTransaction_onTransaction]
      unfold World.onTransaction assignAll
      simp only [List.foldl_append, Function.comp_apply]

/-- What a script asks to be set is assigned, unless the bridge refuses it. -/
theorem World.setTransactionProperty_eq (name value : JsVal) :
    w.setTransactionProperty host i name value =
      w.assignProperties host i (SBController.assignment name value).toList := by
  unfold World.setTransactionProperty SBController.assignment
  cases transaction : (w.messages i).userData with
  | none => exact (assignProperties_of_none w transaction _).symm
  | some k =>
      dsimp only
      split
      case isTrue => exact (assignProperties_nil w).symm
      case isFalse =>
        exact (assignProperties_of_some w transaction
          [(SBController.jsValToString name, SBController.jsValToString value)]).symm

/-- What a script reads under a name that is not special. -/
theorem World.transactionProperty_str {k : Nat} (transaction : (w.messages i).userData = some k)
    {name : String} (nulFree : NulFree name) (named : name ≠ "") (plain : name ≠ "log-id") :
    w.transactionProperty host i (.str name) =
      .str (cStr ((host.getProperty (w.transactions k) name).getD "")) := by
  unfold World.transactionProperty
  rw [transaction, jsValToString_str nulFree]
  dsimp only
  rw [if_neg named, if_neg plain]

end Assign

section Handle

variable (host : SipHost T) (i : Nat) (w : World T S)

theorem transactionOf_handle (args : List JsVal) :
    SBController.transactionOf (.handle i :: args) w = .ok (w.messages i).userData w := rfl

theorem invoke_handle (fn : HostFn) (args : List JsVal) :
    host.invoke fn (.handle i) args w =
      .ok (host.call fn args (w.messages i)).1
        (w.onMessage i fun m => (host.call fn args m).2) := rfl

/-- A host function that leaves the message as it is. -/
theorem invoke_reads {host : SipHost T} {fn : HostFn} {args : List JsVal} {v : JsVal}
    (reads : host.call fn args (w.messages i) = (v, w.messages i)) :
    host.invoke fn (.handle i) args w = .ok v w := by
  rw [invoke_handle, World.onMessage_eq_self w i (congrArg Prod.snd reads), reads]

/-- A host function called for its effect only. -/
theorem invoke_effect {host : SipHost T} {fn : HostFn} {args : List JsVal}
    {f : Message → Message} (effect : ∀ m, (host.call fn args m).2 = f m) :
    (host.invoke fn (.handle i) args >>= fun _ => pure ()) w = .ok () (w.onMessage i f) :=
  and_then (invoke_handle host i w fn args)
    (congrArg (EStateM.Result.ok ()) (World.onMessage_congr w i (effect (w.messages i))))

theorem getTransactionProperty_handle (name : JsVal) :
    SIPMessage.getTransactionProperty host ⟨.handle i⟩ name w =
      .ok (w.transactionProperty host i name) w := by
  unfold SIPMessage.getTransactionProperty SBController.jsMsgGetTransactionProperty
    World.transactionProperty
  rw [if_neg (by simp), bind_of_ok (transactionOf_handle i w [name])]
  cases (w.messages i).userData with
  | none => rfl
  | some k =>
      dsimp only [List.getD, List.getElem?_cons_succ, List.getElem?_cons_zero, Option.getD]
      rw [get_bind]
      simp only [String.isEmpty_iff, beq_iff_eq]
      split
      · rfl
      · split <;> rfl

theorem getLogId_handle : ∃ v, SIPMessage.getLogId host ⟨.handle i⟩ w = .ok v w :=
  ⟨_, getTransactionProperty_handle host i w (.str "log-id")⟩

theorem jsMsgSetTransactionProperty_handle (name value : JsVal) :
    SBController.jsMsgSetTransactionProperty host [.handle i, name, value] w =
      .ok (.bool (w.acceptsTransactionProperty i name value))
        (w.setTransactionProperty host i name value) := by
  unfold SBController.jsMsgSetTransactionProperty World.setTransactionProperty
    World.acceptsTransactionProperty
  rw [if_neg (by simp), bind_of_ok (transactionOf_handle i w [name, value])]
  cases (w.messages i).userData with
  | none => rfl
  | some k =>
      dsimp only [List.getD, List.getElem?_cons_succ, List.getElem?_cons_zero, Option.getD]
      simp only [← String.isEmpty_iff, ← Bool.or_eq_true]
      cases (SBController.jsValToString name).isEmpty ||
          (SBController.jsValToString value).isEmpty with
      | true => rfl
      | false => rfl

theorem getSourceAddress_handle :
    SIPMessage.getSourceAddress host ⟨.handle i⟩ w = .ok (w.sourceAddress host i) w := by
  unfold SIPMessage.getSourceAddress SBController.jsMsgGetSourceAddress
    SBController.jsMsgGetTransport World.sourceAddress
  rw [if_neg (by simp), bind_of_ok (transactionOf_handle i w [])]
  cases (w.messages i).userData with
  | none => rfl
  | some k =>
      rw [Option.bind_some]
      dsimp only
      rw [get_bind]
      cases host.serverTransport (w.transactions k) with
      | none => rfl
      | some transport => rfl

theorem setTransactionProperty_handle (name value : JsVal) :
    SIPMessage.setTransactionProperty host ⟨.handle i⟩ name value w =
      .ok () (w.setTransactionProperty host i name value) := by
  apply bind_of_quiet (getLogId_handle host i w)
  intro logId
  exact bind_of_ok (jsMsgSetTransactionProperty_handle host i w name value)

/-- Setting a property to a text. -/
theorem setProperty_handle (sets : host.SetsProperties) {name value : String}
    (named : IsCText name) (filled : IsCText value) :
    SIPMessage.setProperty host ⟨.handle i⟩ (.str name) (.str value) w =
      .ok () (w.onMessage i (Message.setProperty name value)) := by
  apply bind_of_quiet (getLogId_handle host i w)
  intro logId
  apply invoke_effect
  intro m
  exact sets name value m named filled

/-- Asking for the method only reads the message. -/
theorem isRequest_handle (reads : host.IsRequestReads) (method : JsVal) :
    SIPMessage.isRequest host ⟨.handle i⟩ method w =
      .ok (host.call .msgIsRequest [method] (w.messages i)).1 w :=
  invoke_reads i w (Prod.ext rfl (reads [method] (w.messages i)))

end Handle

end SipXsbc
