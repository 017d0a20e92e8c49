import SipXsbc.Script.RouteFlags
import SipXsbc.Script.RouteRequest
import SipXsbc.Script.CallPrefix

/-!
# What a routing script decides

A routing script tells the B2BUA what to do with a request by properties of the message,
and switches it by properties of its transaction (`RouteFlags`). Over any calls of the
methods of `RouteProfile` both are maps, up to a call that throws: two of the methods
name something that is not there.

A bridge is told by its action and by fields of the action, of which a call sets only
those that it is given. `shows_bridge_iff` says when the message then shows the bridge
that was asked for last.
-/

namespace SipXsbc

open Keyed

variable {T : Type}

/-! ## The methods -/

/-- `SIPMessage` has no method of this name. -/
def SIPMessage.setTrasanctionProperty (_this : SIPMessage) (_propertyName _propertyValue : JsVal) :
    Js T RouteScript Unit :=
  throw .typeError

namespace RouteProfile

variable (host : SipHost T) (this : RouteObject)

def setInterfaceAddress (iface port : JsVal) : Js T RouteScript Unit := do
  (← sipMessage this).setProperty host (.str "interface-address") iface
  (← sipMessage this).setProperty host (.str "interface-port") port

def setTargetAddress (transport targetHost targetPort : JsVal) : Js T RouteScript Unit := do
  (← sipMessage this).setProperty host (.str "target-transport") transport
  (← sipMessage this).setProperty host (.str "target-address") targetHost
  (← sipMessage this).setProperty host (.str "target-port") targetPort

def generateLocalResponse (yes : JsVal) : Js T RouteScript Unit := do
  let yes := if yes.typeof == "undefined" then JsVal.str "1" else yes
  (← sipMessage this).setTrasanctionProperty (.str "generate-local-response") yes

def setRejectCode (code : JsVal) : Js T RouteScript Unit := do
  (← sipMessage this).setProperty host (.str "reject-code") code

def bridgeToGateway (gatewayName : JsVal) : Js T RouteScript Unit := do
  (← sipMessage this).setProperty host (.str "action") (.str "bridge-to-gateway")
  (← sipMessage this).setProperty host (.str "gateway") gatewayName

def bridge (authUser authPass : JsVal) : Js T RouteScript Unit := do
  (← sipMessage this).setProperty host (.str "action") (.str "bridge-to-sbc")
  if authUser.typeof != "undefined" && authPass.typeof != "undefined" then
    (← sipMessage this).setProperty host (.str "bridge-auth-user") authUser
    (← sipMessage this).setProperty host (.str "bridge-auth-password") authPass

def bridgeToConference (room pin flags : JsVal) : Js T RouteScript Unit := do
  (← sipMessage this).setProperty host (.str "action") (.str "bridge-to-conference")
  (← sipMessage this).setProperty host (.str "conf-room") room
  if pin.typeof != "undefined" then
    (← sipMessage this).setProperty host (.str "conf-pin") pin
  if flags.typeof != "undefined" then
    (← sipMessage this).setProperty host (.str "conf-flags") flags

/-- The properties of a list, one after another. -/
def setProperties : List (String × JsVal) → Js T RouteScript Unit
  | [] => return ()
  | property :: properties => do
      (← sipMessage this).setProperty host (.str property.1) property.2
      setProperties properties

end RouteProfile

open RouteProfile

/-! ## Calls -/

/-- A call that decides something about the request itself. -/
inductive DecisionCall
  | routeRequest
  | setInterfaceAddress (iface port : JsVal)
  | setTargetAddress (transport targetHost targetPort : JsVal)
  | setTransactionTimeout (timeout : JsVal)
  | routeReject
  | routeAccept
  | setRejectReason (reason : JsVal)
  | setRejectCode (code : JsVal)
  deriving DecidableEq

namespace DecisionCall

def perform (host : SipHost T) (this : RouteObject) : DecisionCall → Js T RouteScript Unit
  | routeRequest => RouteObject.routeRequest host this
  | setInterfaceAddress iface port => RouteProfile.setInterfaceAddress host this iface port
  | setTargetAddress transport targetHost targetPort =>
      RouteProfile.setTargetAddress host this transport targetHost targetPort
  | setTransactionTimeout timeout => RouteProfile.setTransactionTimeout host this timeout
  | routeReject => RouteProfile.routeReject host this
  | routeAccept => RouteProfile.routeAccept host this
  | setRejectReason reason => RouteProfile.setRejectReason host this reason
  | setRejectCode code => RouteProfile.setRejectCode host this code

/-- The properties that the method `routeRequest` of an object sets: `route` inherits
it, `route404` has its own. -/
def routeRequestProperties : RouteObject → List (String × JsVal)
  | .route => [("transaction-timeout", .str "6400"), ("route-action", .str "continue")]
  | .route404 => [("reject-reason", .str "No route available"), ("route-action", .str "reject")]

/-- The properties that a call sets, in order. -/
def properties (this : RouteObject) : DecisionCall → List (String × JsVal)
  | routeRequest => routeRequestProperties this
  | setInterfaceAddress iface port => [("interface-address", iface), ("interface-port", port)]
  | setTargetAddress transport targetHost targetPort =>
      [("target-transport", transport), ("target-address", targetHost), ("target-port", targetPort)]
  | setTransactionTimeout timeout => [("transaction-timeout", timeout)]
  | routeReject => [("route-action", .str "reject")]
  | routeAccept => [("route-action", .str "continue")]
  | setRejectReason reason => [("reject-reason", reason)]
  | setRejectCode code => [("reject-code", code)]

theorem perform_eq (host : SipHost T) (this : RouteObject) (call : DecisionCall) :
    call.perform host this = setProperties host this (call.properties this) := by
  cases call with
  | routeRequest =>
      cases this with
      | route =>
          simp only [perform, properties, routeRequestProperties, setProperties,
            RouteObject.routeRequest, RouteProfile.routeRequest,
            RouteProfile.setTransactionTimeout, RouteProfile.routeAccept, bind_assoc,
            bind_pure_unit]
      | route404 =>
          simp only [perform, properties, routeRequestProperties, setProperties,
            RouteObject.routeRequest, Route404.routeRequest, RouteProfile.setRejectReason,
            RouteProfile.routeReject, bind_assoc, bind_pure_unit]
  | setInterfaceAddress iface port =>
      simp only [perform, properties, setProperties, RouteProfile.setInterfaceAddress,
        bind_pure_unit]
  | setTargetAddress transport targetHost targetPort =>
      simp only [perform, properties, setProperties, RouteProfile.setTargetAddress, bind_pure_unit]
  | setTransactionTimeout timeout =>
      simp only [perform, properties, setProperties, RouteProfile.setTransactionTimeout,
        bind_pure_unit]
  | routeReject =>
      simp only [perform, properties, setProperties, RouteProfile.routeReject, bind_pure_unit]
  | routeAccept =>
      simp only [perform, properties, setProperties, RouteProfile.routeAccept, bind_pure_unit]
  | setRejectReason reason =>
      simp only [perform, properties, setProperties, RouteProfile.setRejectReason, bind_pure_unit]
  | setRejectCode code =>
      simp only [perform, properties, setProperties, RouteProfile.setRejectCode, bind_pure_unit]

end DecisionCall

/-- A call that asks for a bridge. -/
inductive BridgeCall
  | bridgeToGateway (gatewayName : JsVal)
  | bridge (authUser authPass : JsVal)
  | bridgeToConference (room pin flags : JsVal)
  deriving DecidableEq

namespace BridgeCall

def perform (host : SipHost T) (this : RouteObject) : BridgeCall → Js T RouteScript Unit
  | bridgeToGateway gatewayName => RouteProfile.bridgeToGateway host this gatewayName
  | bridge authUser authPass => RouteProfile.bridge host this authUser authPass
  | bridgeToConference room pin flags => RouteProfile.bridgeToConference host this room pin flags

def action : BridgeCall → String
  | bridgeToGateway _ => "bridge-to-gateway"
  | bridge _ _ => "bridge-to-sbc"
  | bridgeToConference _ _ _ => "bridge-to-conference"

/-- The fields of the action, and what the call gives for each of them. -/
def arguments : BridgeCall → List (String × Option JsVal)
  | bridgeToGateway gatewayName => [("gateway", some gatewayName)]
  | bridge authUser authPass =>
      let both := authUser.typeof != "undefined" && authPass.typeof != "undefined"
      [("bridge-auth-user", if both then some authUser else none),
        ("bridge-auth-password", if both then some authPass else none)]
  | bridgeToConference room pin flags =>
      [("conf-room", some room),
        ("conf-pin", if pin.typeof != "undefined" then some pin else none),
        ("conf-flags", if flags.typeof != "undefined" then some flags else none)]

theorem perform_eq (host : SipHost T) (this : RouteObject) (call : BridgeCall) :
    call.perform host this =
      setProperties host this (("action", .str call.action) :: given call.arguments) := by
  cases call with
  | bridgeToGateway gatewayName =>
      simp only [perform, RouteProfile.bridgeToGateway, action, arguments, given, setProperties,
        List.filterMap_cons, List.filterMap_nil, Option.map_some, bind_pure_unit]
  | bridge authUser authPass =>
      simp only [perform, RouteProfile.bridge, action, arguments, given, setProperties]
      cases authUser.typeof != "undefined" && authPass.typeof != "undefined" with
      | true => simp [setProperties]
      | false => simp [setProperties]
  | bridgeToConference room pin flags =>
      simp only [perform, RouteProfile.bridgeToConference, action, arguments, given, setProperties]
      cases pin.typeof != "undefined" <;> cases flags.typeof != "undefined" <;>
        simp [setProperties]

end BridgeCall

/-- Any call that sets something, or throws. -/
inductive ScriptCall
  | control (call : RouteCall)
  | decision (call : DecisionCall)
  | bridge (call : BridgeCall)
  | generateLocalResponse (yes : JsVal)
  | stripCallPrefix (stringPrefix : Option String)
  deriving DecidableEq

namespace ScriptCall

def perform (host : SipHost T) (this : RouteObject) : ScriptCall → Js T RouteScript Unit
  | control call => call.perform host this
  | decision call => call.perform host this
  | bridge call => call.perform host this
  | generateLocalResponse yes => RouteProfile.generateLocalResponse this yes
  | stripCallPrefix stringPrefix => RouteProfile.stripCallPrefix host this stringPrefix

/-- What a call throws. -/
def error : ScriptCall → Option JsError
  | generateLocalResponse _ => some .typeError
  | stripCallPrefix _ => some .referenceError
  | _ => none

/-- Calls one after another. -/
def performAll (host : SipHost T) (this : RouteObject) : List ScriptCall → Js T RouteScript Unit
  | [] => return ()
  | call :: calls => do
      call.perform host this
      performAll host this calls

/-- The calls before the first that throws. -/
def done (calls : List ScriptCall) : List ScriptCall := calls.takeWhile (·.error.isNone)

/-- How calls end. -/
def ended (thrown : Option JsError) (w : World T RouteScript) :
    EStateM.Result JsError (World T RouteScript) Unit :=
  match thrown with
  | none => .ok () w
  | some e => .error e w

end ScriptCall

/-! ## What the message takes of a value -/

/-- `msgSetProperty` sets a named property to the text it takes of a value, or leaves the
message as it is. A text without a NUL is taken as it is. -/
structure SipHost.TakesValues (host : SipHost T) (take : JsVal → Option String) : Prop where
  sets : ∀ name value m, IsCText name →
    (host.call .msgSetProperty [.str name, value] m).2 =
      (take value).elim m fun text => m.setProperty name text
  text : ∀ text, IsCText text → take (.str text) = some text

/-- What `setProperty` sets for a value: it shows `undefined` as a question mark. -/
def shown (take : JsVal → Option String) (value : JsVal) : Option String :=
  take (if value.typeof == "undefined" then .str "?" else value)

/-- What a list of properties is set to. -/
def settings (take : JsVal → Option String) (properties : List (String × JsVal)) :
    List (String × Option String) :=
  properties.map fun property => (property.1, shown take property.2)

/-- The properties that bridges use. -/
def bridgeNames : List String :=
  ["action", "gateway", "bridge-auth-user", "bridge-auth-password", "conf-room", "conf-pin",
    "conf-flags"]

/-- The properties of the other decisions. -/
def decisionNames : List String :=
  ["transaction-timeout", "route-action", "reject-reason", "reject-code", "interface-address",
    "interface-port", "target-transport", "target-address", "target-port"]

theorem DecisionCall.property_names (this : RouteObject) (call : DecisionCall) :
    ∀ property ∈ call.properties this, property.1 ∈ decisionNames := by
  cases call with
  | routeRequest => cases this <;> simp [properties, routeRequestProperties, decisionNames]
  | _ => simp [properties, decisionNames]

theorem BridgeCall.argument_names (call : BridgeCall) :
    ∀ argument ∈ call.arguments, argument.1 ∈ bridgeNames := by
  cases call <;> simp [arguments, bridgeNames]

/-- What a bridge sets of the fields of its action. -/
def BridgeCall.fields (take : JsVal → Option String) (call : BridgeCall) :
    List (String × Option String) :=
  call.arguments.map fun argument => (argument.1, argument.2.bind (shown take))

theorem BridgeCall.given_fields (take : JsVal → Option String) (call : BridgeCall) :
    given (settings take (given call.arguments)) = given (call.fields take) := by
  unfold settings fields
  generalize call.arguments = arguments
  induction arguments with
  | nil => rfl
  | cons argument arguments ih =>
      obtain ⟨name, value⟩ := argument
      cases value with
      | none => exact ih
      | some value =>
          change given ((name, shown take value) :: _) = given ((name, shown take value) :: _)
          cases shown take value with
          | none => exact ih
          | some text => exact congrArg (List.cons (name, text)) ih

namespace ScriptCall

/-- The properties that a call on an object sets on its message. -/
def messageSets (take : JsVal → Option String) (this : RouteObject) :
    ScriptCall → List (String × String)
  | decision call => given (settings take (call.properties this))
  | bridge call => given (("action", some call.action) :: call.fields take)
  | _ => []

/-- The properties that a call sets on the transaction of a message. -/
def transactionSets (m : Message) : ScriptCall → List (String × String)
  | control call => call.assigns m
  | _ => []

end ScriptCall

/-! ## One call -/

namespace World

/-- The world with properties set on a message and on its transaction. -/
def decided (host : SipHost T) (i : Nat) (as bs : List (String × String))
    (w : World T RouteScript) : World T RouteScript :=
  (w.onMessage i fun m => assignAll Message.withProperty m as).assignProperties host i bs

variable {host : SipHost T} {i : Nat} (w : World T RouteScript)

theorem userData_onMessage_assignAll (as : List (String × String)) :
    ((w.onMessage i fun m => assignAll Message.withProperty m as).messages i).userData =
      (w.messages i).userData := by
  rw [onMessage_messages_self, Message.assignAll_eq]

theorem decided_of_none (none : (w.messages i).userData = none) (as bs : List (String × String)) :
    w.decided host i as bs = w.onMessage i fun m => assignAll Message.withProperty m as :=
  assignProperties_of_none _ ((userData_onMessage_assignAll w as).trans none) bs

theorem decided_of_some {k : Nat} (some : (w.messages i).userData = some k)
    (as bs : List (String × String)) :
    w.decided host i as bs =
      (w.onMessage i fun m => assignAll Message.withProperty m as).onTransaction k
        (assignAll host.setProperty · bs) :=
  assignProperties_of_some _ ((userData_onMessage_assignAll w as).trans some) bs

theorem decided_messages (as bs : List (String × String)) :
    (w.decided host i as bs).messages =
      Function.update w.messages i (assignAll Message.withProperty (w.messages i) as) :=
  assignProperties_messages ..

theorem decided_script (as bs : List (String × String)) :
    (w.decided host i as bs).script = w.script :=
  assignProperties_script ..

theorem decided_decided (as bs as' bs' : List (String × String)) :
    (w.decided host i as bs).decided host i as' bs' = w.decided host i (as ++ as') (bs ++ bs') := by
  have here : ((w.decided host i as bs).messages i).userData = (w.messages i).userData := by
    rw [decided_messages, Function.update_self, Message.assignAll_eq]
  cases transaction : (w.messages i).userData with
  | none =>
      rw [decided_of_none _ (here.trans transaction), decided_of_none w transaction,
        decided_of_none w transaction, onMessage_onMessage]
      simp only [assignAll, List.foldl_append, Function.comp_def]
  | some k =>
      rw [decided_of_some _ (here.trans transaction), decided_of_some w transaction,
        decided_of_some w transaction]
      simp only [onTransaction, onMessage, Function.update_self, Function.update_idem, assignAll,
        List.foldl_append]

end World

section Bound

variable {host : SipHost T} {take : JsVal → Option String} {this : RouteObject} {i : Nat}
  {w : World T RouteScript}

theorem setProperty_takes (takes : host.TakesValues take) {name : String} (named : IsCText name)
    (value : JsVal) (w : World T RouteScript) :
    SIPMessage.setProperty host ⟨.handle i⟩ (.str name) value w =
      .ok () (w.decided host i (given [(name, shown take value)]) []) := by
  have sets (m : Message) :
      (host.call .msgSetProperty
        [.str name, if value.typeof == "undefined" then .str "?" else value] m).2 =
        assignAll Message.withProperty m (given [(name, shown take value)]) := by
    rw [takes.sets _ _ _ named]
    unfold shown
    cases take (if value.typeof == "undefined" then .str "?" else value) <;> rfl
  unfold World.decided
  rw [World.assignProperties_nil]
  apply bind_of_quiet (getLogId_handle host i w)
  intro logId
  exact invoke_effect i w sets

/-- Properties are set in order, on the message the object is bound to. -/
theorem setProperties_bound (takes : host.TakesValues take) {properties : List (String × JsVal)}
    (named : ∀ property ∈ properties, IsCText property.1)
    (bound : w.script this = some ⟨.handle i⟩) :
    setProperties host this properties w =
      .ok () (w.decided host i (given (settings take properties)) []) := by
  induction properties generalizing w with
  | nil =>
      unfold World.decided
      rw [World.assignProperties_nil]
      exact congrArg (EStateM.Result.ok ()) (World.onMessage_eq_self w i rfl).symm
  | cons property properties ih =>
      obtain ⟨first, rest⟩ := List.forall_mem_cons.mp named
      unfold setProperties
      refine and_then (sipMessage_bound bound) ?_
      refine and_then (setProperty_takes takes first property.2 w) ?_
      rw [ih rest (by rw [World.decided_script]; exact bound), World.decided_decided]
      refine congrArg (fun as => EStateM.Result.ok () (w.decided host i as [])) ?_
      exact List.filterMap_append.symm

theorem DecisionCall.named (this : RouteObject) (call : DecisionCall) :
    ∀ property ∈ call.properties this, IsCText property.1 := by
  have plain : ∀ name ∈ decisionNames, IsCText name := by decide
  intro property mem
  exact plain property.1 (call.property_names this property mem)

theorem BridgeCall.named (call : BridgeCall) :
    ∀ property ∈ given call.arguments, IsCText property.1 := by
  have plain : ∀ name ∈ bridgeNames, IsCText name := by decide
  intro property mem
  have field := call.argument_names (property.1, some property.2) (mem_given.mp mem)
  exact plain property.1 field

namespace ScriptCall

/-- A call sets what it sets, and nothing else. -/
theorem perform_bound (takes : host.TakesValues take) (reads : host.IsRequestReads)
    (exact : host.IsRequestExact) (bound : w.script this = some ⟨.handle i⟩) {call : ScriptCall}
    (quiet : call.error = none) :
    call.perform host this w =
      .ok () (w.decided host i (call.messageSets take this)
        (call.transactionSets (w.messages i))) := by
  cases call with
  | control call =>
      refine (call.perform_bound reads exact bound).trans ?_
      unfold World.decided
      rw [World.onMessage_eq_self w i rfl]
      rfl
  | decision call =>
      change call.perform host this w = _
      rw [call.perform_eq, setProperties_bound takes (call.named this) bound]
      rfl
  | bridge call =>
      have named : ∀ property ∈ (("action", .str call.action) :: given call.arguments :
          List (String × JsVal)), IsCText property.1 :=
        List.forall_mem_cons.mpr ⟨(by decide : IsCText "action"), call.named⟩
      have action : shown take (.str call.action) = some call.action := by
        refine takes.text _ ?_
        cases call <;> simp only [BridgeCall.action] <;> decide
      change call.perform host this w = _
      rw [call.perform_eq, setProperties_bound takes named bound]
      refine congrArg (fun as => EStateM.Result.ok () (w.decided host i as [])) ?_
      change given (("action", shown take (.str call.action)) ::
        settings take (given call.arguments)) = _
      rw [action]
      exact congrArg (List.cons ("action", call.action)) (call.given_fields take)
  | generateLocalResponse yes => cases quiet
  | stripCallPrefix stringPrefix => cases quiet

/-- A call that throws does nothing else. -/
theorem perform_throws (bound : w.script this = some ⟨.handle i⟩) {call : ScriptCall} {e : JsError}
    (throws : call.error = some e) : call.perform host this w = .error e w := by
  cases call with
  | generateLocalResponse yes =>
      cases throws
      exact bind_of_ok (sipMessage_bound bound)
  | stripCallPrefix stringPrefix =>
      cases throws
      rfl
  | control call => cases throws
  | decision call => cases throws
  | bridge call => cases throws

end ScriptCall

end Bound

/-! ## Runs -/

namespace ScriptCall

/-- What the calls before the first that throws set on a message. -/
def messageRun (take : JsVal → Option String) (this : RouteObject) (calls : List ScriptCall) :
    List (String × String) :=
  (done calls).flatMap (messageSets take this)

/-- What they set on its transaction. -/
def transactionRun (m : Message) (calls : List ScriptCall) : List (String × String) :=
  (done calls).flatMap (transactionSets m)

/-- A script finds the method of a request the same whatever properties it has. -/
theorem transactionSets_withProperties (m : Message) (properties : String → Option String) :
    transactionSets { m with properties := properties } = transactionSets m := by
  funext call
  cases call with
  | control call => cases call <;> rfl
  | _ => rfl

section Run

variable {host : SipHost T} {take : JsVal → Option String} {this : RouteObject} {i : Nat}
  {w : World T RouteScript}

/-- Calls set what those before the first that throws set. -/
theorem performAll_eq (takes : host.TakesValues take) (reads : host.IsRequestReads)
    (exact : host.IsRequestExact) (bound : w.script this = some ⟨.handle i⟩)
    (calls : List ScriptCall) :
    performAll host this calls w =
      ended (calls.findSome? error)
        (w.decided host i (messageRun take this calls) (transactionRun (w.messages i) calls)) := by
  induction calls generalizing w with
  | nil =>
      have same : w.decided host i [] [] = w := by
        unfold World.decided
        rw [World.assignProperties_nil]
        exact World.onMessage_eq_self w i rfl
      change EStateM.Result.ok () w = EStateM.Result.ok () (w.decided host i [] [])
      rw [same]
  | cons call calls ih =>
      unfold performAll messageRun transactionRun done
      cases throws : call.error with
      | some e =>
          rw [bind_of_error (perform_throws bound throws), List.findSome?_cons, throws,
            List.takeWhile_cons_of_neg (by simp [throws])]
          refine congrArg (EStateM.Result.error e) ?_
          unfold World.decided
          rw [World.onMessage_eq_self w i rfl]
          exact (World.assignProperties_nil w).symm
      | none =>
          have here := bound
          rw [← World.decided_script w (call.messageSets take this)
            (call.transactionSets (w.messages i))] at here
          have same : transactionSets ((w.decided host i (call.messageSets take this)
              (call.transactionSets (w.messages i))).messages i) =
                transactionSets (w.messages i) := by
            rw [World.decided_messages, Function.update_self, Message.assignAll_eq]
            exact transactionSets_withProperties _ _
          rw [bind_of_ok (perform_bound takes reads exact bound throws), ih here,
            World.decided_decided, List.findSome?_cons, throws,
            List.takeWhile_cons_of_pos (by simp [throws]), List.flatMap_cons, List.flatMap_cons]
          unfold transactionRun messageRun done
          rw [same]

end Run

end ScriptCall

open ScriptCall

/-- What calls leave of the world: two maps have changed. -/
structure Decided (host : SipHost T) (i : Nat) (as bs : List (String × String))
    (w w' : World T RouteScript) : Prop where
  message : w'.messages i =
    { w.messages i with
      properties := fun name => (lastValue as name).or ((w.messages i).properties name) }
  otherMessages : ∀ j, j ≠ i → w'.messages j = w.messages j
  transaction : ∀ k, (w.messages i).userData = some k → ∀ name,
    host.getProperty (w'.transactions k) name =
      (lastValue bs name).or (host.getProperty (w.transactions k) name)
  otherTransactions : ∀ k, (w.messages i).userData ≠ some k →
    w'.transactions k = w.transactions k
  script : w'.script = w.script

theorem World.decided_spec {host : SipHost T} (map : host.StringMap) {i : Nat}
    (w : World T RouteScript) (as bs : List (String × String)) :
    Decided host i as bs w (w.decided host i as bs) := by
  refine ⟨?_, ?_, ?_, ?_, World.decided_script ..⟩
  · rw [World.decided_messages, Function.update_self, Message.assignAll_eq]
  · intro j other
    rw [World.decided_messages, Function.update_of_ne other]
  · intro k transaction name
    rw [World.decided_of_some w transaction, World.onTransaction_transactions_self,
      map.get_assignAll]
    rfl
  · intro k other
    cases transaction : (w.messages i).userData with
    | none =>
        rw [World.decided_of_none w transaction]
        rfl
    | some k' =>
        rw [World.decided_of_some w transaction]
        refine Function.update_of_ne ?_ ..
        intro same
        exact other (same ▸ transaction)

/-- **A routing script keeps two maps.** Calls of any methods on a bound object end as the first
that throws does; those before it have set their properties on the message and on its
transaction, the last value under each name, and nothing else has changed. -/
theorem route_script_keeps_two_maps {host : SipHost T} (map : host.StringMap)
    {take : JsVal → Option String} (takes : host.TakesValues take) (reads : host.IsRequestReads)
    (exact : host.IsRequestExact) {this : RouteObject} {i : Nat} {w : World T RouteScript}
    (bound : w.script this = some ⟨.handle i⟩) (calls : List ScriptCall) :
    ∃ w', performAll host this calls w = ended (calls.findSome? error) w' ∧
      Decided host i (messageRun take this calls) (transactionRun (w.messages i) calls) w w' :=
  ⟨_, performAll_eq takes reads exact bound calls, World.decided_spec map w _ _⟩

/-! ## Bridges -/

namespace Message

/-- The message shows the bridge that the call asks for: its action, and of every field what
the call gives, or nothing. -/
structure ShowsBridge (take : JsVal → Option String) (call : BridgeCall) (m : Message) : Prop where
  action : m.properties "action" = some call.action
  fields : ∀ field ∈ call.fields take, m.properties field.1 = field.2

end Message

theorem BridgeCall.field_names (take : JsVal → Option String) (call : BridgeCall) :
    ((("action", some call.action) :: call.fields take).map Prod.fst).Nodup ∧
      ∀ field ∈ (("action", some call.action) :: call.fields take), field.1 ∈ bridgeNames := by
  cases call <;> simp [fields, arguments, bridgeNames]

/-- No other call uses them. -/
theorem ScriptCall.bridge_of_name {take : JsVal → Option String} {this : RouteObject}
    {call : ScriptCall}
    {set : String × String} (mem : set ∈ call.messageSets take this) (name : set.1 ∈ bridgeNames) :
    ∃ b, call = .bridge b := by
  cases call with
  | bridge b => exact ⟨b, rfl⟩
  | decision d =>
      obtain ⟨property, member, same⟩ := List.mem_map.mp (mem_given.mp mem)
      have under : property.1 = set.1 := congrArg Prod.fst same
      rw [← under] at name
      have other : property.1 ∉ bridgeNames := by
        have apart : ∀ name ∈ decisionNames, name ∉ bridgeNames := by decide
        exact apart property.1 (d.property_names this property member)
      exact absurd name other
  | control call => cases mem
  | generateLocalResponse yes => cases mem
  | stripCallPrefix stringPrefix => cases mem

section Bridges

variable {host : SipHost T} {take : JsVal → Option String} {this : RouteObject} {i : Nat}
  {w : World T RouteScript}

/-- A bridge is reached after calls that do not throw. -/
theorem done_reached {before : List ScriptCall} (reached : ∀ c ∈ before, c.error = none)
    (call : BridgeCall) (after : List ScriptCall) :
    done (before ++ .bridge call :: after) = before ++ .bridge call :: done after ∧
      (before ++ .bridge call :: after).findSome? error = after.findSome? error := by
  have quiet : before.findSome? error = none := List.findSome?_eq_none_iff.mpr reached
  refine ⟨?_, ?_⟩
  · unfold done
    rw [List.takeWhile_append_of_pos (by simpa using reached)]
    rfl
  · rw [List.findSome?_append, quiet]
    rfl

theorem showsBridge_iff_fields {call : BridgeCall} {m : Message} :
    m.ShowsBridge take call ↔
      ∀ field ∈ (("action", some call.action) :: call.fields take),
        m.properties field.1 = field.2 := by
  rw [List.forall_mem_cons]
  exact ⟨fun shows => ⟨shows.action, shows.fields⟩, fun fields => ⟨fields.1, fields.2⟩⟩

/-- Only a bridge can have set a field of a bridge. -/
theorem field_unset_iff {before : List ScriptCall} {name : String} (field : name ∈ bridgeNames)
    (other : name ≠ "action") :
    lastValue (before.flatMap (messageSets take this)) name = none ↔
      ∀ b, .bridge b ∈ before → ∀ text, (name, some text) ∉ b.fields take := by
  rw [lastValue_eq_none_iff]
  refine ⟨?_, ?_⟩
  · intro never b mem text given
    refine never (name, text) (List.mem_flatMap_of_mem mem ?_) rfl
    exact mem_given.mpr (List.mem_cons_of_mem _ given)
  · intro never set mem under
    obtain ⟨call, member, sets⟩ := List.mem_flatMap.mp mem
    subst under
    obtain ⟨b, rfl⟩ := bridge_of_name sets field
    rcases List.mem_cons.mp (mem_given.mp sets) with action | given
    · exact other (congrArg Prod.fst action)
    · exact never b member set.2 given

/-- **When a message shows the bridge asked for.** After the last call that asks for a bridge, and
whatever else is called, the message shows this bridge exactly if no field that the call leaves
out was there at first or was given by an earlier bridge. -/
theorem shows_bridge_iff (takes : host.TakesValues take) (reads : host.IsRequestReads)
    (exact : host.IsRequestExact) (bound : w.script this = some ⟨.handle i⟩)
    {before after : List ScriptCall} (call : BridgeCall)
    (reached : ∀ c ∈ before, c.error = none) (last : ∀ b, .bridge b ∉ after) :
    ∃ w', performAll host this (before ++ .bridge call :: after) w =
        ended (after.findSome? error) w' ∧
      ((w'.messages i).ShowsBridge take call ↔
        ∀ name, (name, none) ∈ call.fields take →
          (w.messages i).properties name = none ∧
            ∀ b, .bridge b ∈ before → ∀ text, (name, some text) ∉ b.fields take) := by
  obtain ⟨cut, error⟩ := done_reached reached call after
  obtain ⟨distinct, names⟩ := call.field_names take
  refine ⟨_, (performAll_eq takes reads exact bound _).trans (congrArg (ended · _) error), ?_⟩
  have message : messageRun take this (before ++ .bridge call :: after) =
      before.flatMap (messageSets take this) ++
          given (("action", some call.action) :: call.fields take) ++
        (done after).flatMap (messageSets take this) := by
    unfold messageRun
    rw [cut, List.flatMap_append, List.flatMap_cons, List.append_assoc]
    rfl
  have alone : ∀ field ∈ (("action", some call.action) :: call.fields take),
      ∀ set ∈ (done after).flatMap (messageSets take this), set.1 ≠ field.1 := by
    intro field mem set setMem under
    obtain ⟨c, member, sets⟩ := List.mem_flatMap.mp setMem
    obtain ⟨b, rfl⟩ := bridge_of_name sets (under ▸ names field mem)
    exact last b ((List.takeWhile_sublist _).subset member)
  have other : ∀ field ∈ call.fields take, field.1 ≠ "action" := by
    intro field mem same
    have repeated := List.mem_map_of_mem (f := Prod.fst) mem
    rw [same] at repeated
    exact (List.nodup_cons.mp distinct).1 repeated
  rw [World.decided_messages, Function.update_self, message, showsBridge_iff_fields,
    Message.properties_isMap.fields_read_iff _ _ _ distinct alone]
  rw [List.forall_mem_cons]
  refine (and_iff_right (fun none => nomatch none)).trans ?_
  refine ⟨fun unset name mem => ?_, fun unset field mem none => ?_⟩
  · have read := unset (name, none) mem rfl
    rw [Message.properties_isMap.get_assignAll, Option.or_eq_none_iff] at read
    have field := names _ (List.mem_cons_of_mem _ mem)
    exact ⟨read.2, (field_unset_iff field (other _ mem)).mp read.1⟩
  · obtain ⟨name, value⟩ := field
    subst none
    obtain ⟨empty, never⟩ := unset name mem
    rw [Message.properties_isMap.get_assignAll, Option.or_eq_none_iff]
    have field := names _ (List.mem_cons_of_mem _ mem)
    exact ⟨(field_unset_iff field (other _ mem)).mpr never, empty⟩

end Bridges

/-! ## On the host in memory -/

def memoryTake : JsVal → Option String
  | .str text => if text = "" then none else some text
  | _ => none

theorem memoryHost_takesValues : memoryHost.TakesValues memoryTake := by
  refine ⟨?_, fun text filled => if_neg filled.1⟩
  intro name value m named
  cases value with
  | str text =>
      by_cases filled : text = ""
      · subst filled
        exact congrArg Prod.snd (if_pos (Or.inr rfl))
      · have taken : memoryTake (.str text) = some text := if_neg filled
        rw [taken]
        exact congrArg Prod.snd (if_neg (not_or.mpr ⟨named.1, filled⟩))
  | _ => rfl

/-- A request is accepted and flagged; then a call throws, and the reject that follows it is not
reached. -/
theorem route_script_keeps_two_maps_local :
    ∃ w', performAll memoryHost .route
        [.decision .routeRequest, .control (.flagRoute (.str "trunk")),
          .generateLocalResponse .undefined, .decision .routeReject] registerWorld =
          .error .typeError w' ∧
      (w'.messages 0).properties "route-action" = some "continue" ∧
      memoryHost.getProperty (w'.transactions 0) "trunk" = some "1" := by
  obtain ⟨w', run, decided⟩ := route_script_keeps_two_maps memoryHost_stringMap
    memoryHost_takesValues memoryHost_isRequestReads memoryHost_isRequestExact
    (show registerWorld.script .route = some ⟨.handle 0⟩ from rfl)
    [.decision .routeRequest, .control (.flagRoute (.str "trunk")),
      .generateLocalResponse .undefined, .decision .routeReject]
  refine ⟨w', run, ?_, ?_⟩
  · rw [decided.message]
    rfl
  · rw [decided.transaction 0 rfl]
    decide

/-- The credentials of a bridge stay for one that has none. -/
theorem shows_bridge_credentials :
    ∃ w', performAll memoryHost .route
        [.bridge (.bridge (.str "alice") (.str "secret")), .decision .routeAccept,
          .bridge (.bridge .undefined .undefined)] registerWorld = .ok () w' ∧
      ¬ (w'.messages 0).ShowsBridge memoryTake (.bridge .undefined .undefined) := by
  obtain ⟨w', run, shows⟩ := @shows_bridge_iff _ _ _ .route 0 registerWorld memoryHost_takesValues
    memoryHost_isRequestReads memoryHost_isRequestExact rfl
    [.bridge (.bridge (.str "alice") (.str "secret")), .decision .routeAccept] []
    (.bridge .undefined .undefined) (by decide) (fun _ => List.not_mem_nil)
  refine ⟨w', run, ?_⟩
  rw [shows]
  intro unset
  obtain ⟨-, never⟩ := unset "bridge-auth-user" List.mem_cons_self
  exact never _ List.mem_cons_self "alice" List.mem_cons_self

end SipXsbc
