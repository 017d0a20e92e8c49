import SipXsbc.Script.Bridge

/-!
# The class `RouteProfile`

The methods that the routing scripts inherit. An object is bound to a request by
`setRequest`; every other method works on the message it is bound to. Flags and
controls of a route are properties of the message's transaction.
-/

namespace SipXsbc

/-- The two objects of the script. -/
inductive RouteObject
  | route
  | route404
  deriving DecidableEq

/-- The property `sipMessage` of each object, where it has been set. -/
abbrev RouteScript := RouteObject → Option SIPMessage

variable {T : Type}

/-- `v == "1"` -/
def JsVal.equalsOne : JsVal → Bool
  | undefined => false
  | null => false
  | bool b => b
  | num n => n == .finite 1
  | str s => s == "1"
  | obj _ s => s == "1"

namespace RouteProfile

variable (host : SipHost T) (this : RouteObject)

def setRequest (request : JsVal) : Js T RouteScript Unit :=
  modify fun w => { w with script := Function.update w.script this (some ⟨request⟩) }

/-- `this.sipMessage`, for a call of one of its methods. -/
def sipMessage : Js T RouteScript SIPMessage := do
  match (← get).script this with
  | some sipMessage => return sipMessage
  | none => throw .typeError

def isRoutable : Js T RouteScript Bool :=
  return false

def setTargetDomain (targetDomain : JsVal) : Js T RouteScript Unit := do
  (← sipMessage this).setRequestUriHostPort host targetDomain
  (← sipMessage this).setFromHostPort host targetDomain
  (← sipMessage this).setToHostPort host targetDomain

def setTransactionTimeout (timeout : JsVal) : Js T RouteScript Unit := do
  (← sipMessage this).setProperty host (.str "transaction-timeout") timeout

def flagRoute (routeAlias : JsVal) : Js T RouteScript Unit := do
  (← sipMessage this).setTransactionProperty host routeAlias (.str "1")

def isRouteFlagged (routeAlias : JsVal) : Js T RouteScript Bool := do
  return (← (← sipMessage this).getTransactionProperty host routeAlias).equalsOne

def allowFailover : Js T RouteScript Unit := do
  (← sipMessage this).setTransactionProperty host (.str "allow-failover") (.str "1")

def disallowFailover : Js T RouteScript Unit := do
  (← sipMessage this).setTransactionProperty host (.str "allow-failover") (.str "0")

def invokeLocalHandler : Js T RouteScript Unit := do
  (← sipMessage this).setTransactionProperty host (.str "invoke-local-handler") (.str "1")

def allowRTPProxy : Js T RouteScript Unit := do
  (← sipMessage this).setTransactionProperty host (.str "no-rtp-proxy") (.str "0")

def disallowRTPProxy : Js T RouteScript Unit := do
  (← sipMessage this).setTransactionProperty host (.str "no-rtp-proxy") (.str "1")

def enableVerboseRTP : Js T RouteScript Unit := do
  (← sipMessage this).setTransactionProperty host (.str "enable-verbose-rtp") (.str "1")

def disbleVerboseRTP : Js T RouteScript Unit := do
  (← sipMessage this).setTransactionProperty host (.str "enable-verbose-rtp") (.str "0")

def handleLocalReg (a1 realm expires : JsVal) : Js T RouteScript Unit := do
  let register ← (← sipMessage this).isRequest host (.str "REGISTER")
  if !register.truthy then
    return ()
  else
    (← sipMessage this).setTransactionProperty host (.str "invoke-local-handler") (.str "1")
    (← sipMessage this).setTransactionProperty host (.str "auth-a1-hash") a1
    (← sipMessage this).setTransactionProperty host (.str "auth-realm") realm
    (← sipMessage this).setTransactionProperty host (.str "reg-expires") expires

def routeReject : Js T RouteScript Unit := do
  (← sipMessage this).setProperty host (.str "route-action") (.str "reject")

def routeAccept : Js T RouteScript Unit := do
  (← sipMessage this).setProperty host (.str "route-action") (.str "continue")

def setRejectReason (reason : JsVal) : Js T RouteScript Unit := do
  (← sipMessage this).setProperty host (.str "reject-reason") reason

def routeRequest : Js T RouteScript Unit := do
  setTransactionTimeout host this (.str "6400")
  routeAccept host this

end RouteProfile

/-! ## Bound objects -/

theorem sipMessage_bound {this : RouteObject} {i : Nat} {w : World T RouteScript}
    (bound : w.script this = some ⟨.handle i⟩) :
    RouteProfile.sipMessage this w = .ok ⟨.handle i⟩ w := by
  unfold RouteProfile.sipMessage
  rw [get_bind, bound]
  rfl

/-- The world with an object bound to a message. -/
def World.rebound (this : RouteObject) (i : Nat) (w : World T RouteScript) : World T RouteScript :=
  { w with script := Function.update w.script this (some ⟨.handle i⟩) }

theorem World.rebound_bound (this : RouteObject) (i : Nat) (w : World T RouteScript) :
    (w.rebound this i).script this = some ⟨.handle i⟩ :=
  Function.update_self ..

section Bound

open SBController

variable {host : SipHost T} {this : RouteObject} {i : Nat} {w : World T RouteScript}

theorem setRequest_eq (w : World T RouteScript) :
    RouteProfile.setRequest this (.handle i) w = .ok () (w.rebound this i) := rfl

theorem setTransactionProperty_assigns (w : World T RouteScript) (name value : JsVal) :
    SIPMessage.setTransactionProperty host ⟨.handle i⟩ name value w =
      .ok () (w.assignProperties host i (assignment name value).toList) := by
  rw [← World.setTransactionProperty_eq]
  exact setTransactionProperty_handle host i w name value

/-- A bound object that sets a property is bound as before when it goes on. -/
theorem setTransactionProperty_then (bound : w.script this = some ⟨.handle i⟩)
    {name value : JsVal} {as : List (String × String)} {rest : Js T RouteScript Unit}
    (goesOn : ∀ w : World T RouteScript, w.script this = some ⟨.handle i⟩ →
      rest w = .ok () (w.assignProperties host i as)) :
    (do
      (← RouteProfile.sipMessage this).setTransactionProperty host name value
      rest) w =
        .ok () (w.assignProperties host i ((assignment name value).toList ++ as)) := by
  refine and_then (sipMessage_bound bound) ?_
  refine and_then (setTransactionProperty_assigns w name value) ?_
  rw [World.assignProperties_append]
  apply goesOn
  rw [World.assignProperties_script]
  exact bound

namespace RouteProfile

/-- What `handleLocalReg` sets for a REGISTER, in order. -/
def localRegProperties (a1 realm expires : JsVal) : List (String × JsVal) :=
  [("invoke-local-handler", .str "1"), ("auth-a1-hash", a1), ("auth-realm", realm),
    ("reg-expires", expires)]

/-- What the bridge takes of a list of properties. -/
def taken (properties : List (String × JsVal)) : List (String × String) :=
  properties.filterMap fun property => assignment (.str property.1) property.2

theorem taken_cons (property : String × JsVal) (properties : List (String × JsVal)) :
    taken (property :: properties) =
      (assignment (.str property.1) property.2).toList ++ taken properties := by
  unfold taken
  cases assigned : assignment (.str property.1) property.2 with
  | none => exact List.filterMap_cons_none assigned
  | some a => exact List.filterMap_cons_some assigned

/-- What `handleLocalReg` assigns on a message. -/
def localReg (a1 realm expires : JsVal) (m : Message) : List (String × String) :=
  if m.method = some "REGISTER" then taken (localRegProperties a1 realm expires) else []

end RouteProfile

theorem handleLocalReg_bound (reads : host.IsRequestReads) (exact : host.IsRequestExact)
    (bound : w.script this = some ⟨.handle i⟩) (a1 realm expires : JsVal) :
    RouteProfile.handleLocalReg host this a1 realm expires w =
      .ok () (w.assignProperties host i
        (RouteProfile.localReg a1 realm expires (w.messages i))) := by
  unfold RouteProfile.handleLocalReg RouteProfile.localReg
  refine and_then (sipMessage_bound bound) ?_
  refine and_then (isRequest_handle host i w reads (.str "REGISTER")) ?_
  rw [exact]
  by_cases register : (w.messages i).method = some "REGISTER"
  case neg =>
    rw [if_pos (by simpa using register), if_neg register, World.assignProperties_nil]
    rfl
  have assigned : RouteProfile.taken (RouteProfile.localRegProperties a1 realm expires) =
      (assignment (.str "invoke-local-handler") (.str "1")).toList ++
        ((assignment (.str "auth-a1-hash") a1).toList ++
          ((assignment (.str "auth-realm") realm).toList ++
            (assignment (.str "reg-expires") expires).toList)) := by
    unfold RouteProfile.localRegProperties
    rw [RouteProfile.taken_cons, RouteProfile.taken_cons, RouteProfile.taken_cons,
      RouteProfile.taken_cons]
    exact congrArg _ (congrArg _ (congrArg _ (List.append_nil _)))
  rw [if_neg (by simpa using register), if_pos register, assigned]
  refine setTransactionProperty_then bound fun w bound => ?_
  refine setTransactionProperty_then bound fun w bound => ?_
  refine setTransactionProperty_then bound fun w bound => ?_
  exact and_then (sipMessage_bound bound) (setTransactionProperty_assigns w _ _)

end Bound

/-- A REGISTER that both objects are bound to. -/
def registerWorld : World MemoryTransaction RouteScript where
  messages _ :=
    { method := some "REGISTER"
      requestUri := ⟨none, "example.com"⟩
      fromUri := ⟨some "alice", "example.com"⟩
      toUri := ⟨some "alice", "example.com"⟩
      headers := []
      properties := fun _ => none
      userData := some 0 }
  transactions _ := ⟨"log", none, fun _ => none⟩
  defaultTargetDomain := ""
  script _ := some ⟨.handle 0⟩

end SipXsbc
