import SipXsbc.Script.RouteProfile

/-!
# Routing requests

`handle_request` of `routeRequest.js` and the classes behind its two objects. They
are created once and bound to each request in turn; `route` overrides `isRoutable`
of `RouteProfile`, `route404` overrides `routeRequest`. `routed` is what handling
a request does to it, and `handleRequests_eq` says that this is all that
happens, over any number of requests.
-/

namespace SipXsbc

variable {T : Type}

/-! ## The classes -/

namespace JsVal

/-- `typeof v == "undefined" || v.length == 0` -/
def isUnset {S : Type} (v : JsVal) : Js T S Bool := do
  if v.typeof == "undefined" then
    return true
  else
    return (← v.length) == some 0

/-- `typeof v != "undefined" && v.length > 0` -/
def isFilled {S : Type} (v : JsVal) : Js T S Bool := do
  if v.typeof != "undefined" then
    return (← v.length).any (· > 0)
  else
    return false

end JsVal

namespace Route

open RouteProfile

variable (host : SipHost T) (this : RouteObject)

/-- Retarget an out-of-dialog REFER that names no user. -/
def retargetRefer : Js T RouteScript Unit := do
  let refer ← (← sipMessage this).isRequest host (.str "REFER")
  if refer.truthy then
    let user ← (← sipMessage this).getRequestUriUser host
    if ← user.isUnset then
      let user ← (← sipMessage this).getToUser host
      if ← user.isFilled then
        (← sipMessage this).setRequestUriUser host user

def isRoutable : Js T RouteScript Bool := do
  let target ← SBController.jsMsgGetDefaultTargetDomain
  if ← target.isUnset then
    return false
  else
    setTargetDomain host this target
    retargetRefer host this
    (← sipMessage this).hdrRemove host (.str "Remote-Party-Id")
    (← sipMessage this).hdrRemove host (.str "Accept-Laguage")
    return true

end Route

namespace Route404

open RouteProfile

def routeRequest (host : SipHost T) (this : RouteObject) : Js T RouteScript Unit := do
  setRejectReason host this (.str "No route available")
  routeReject host this

end Route404

namespace RouteObject

/-- The method `isRoutable` that an object finds along its prototypes. -/
def isRoutable (host : SipHost T) : RouteObject → Js T RouteScript Bool
  | route => Route.isRoutable host route
  | route404 => RouteProfile.isRoutable

/-- The method `routeRequest` that an object finds along its prototypes. -/
def routeRequest (host : SipHost T) : RouteObject → Js T RouteScript Unit
  | route => RouteProfile.routeRequest host route
  | route404 => Route404.routeRequest host route404

end RouteObject

namespace RouteRequest

open RouteProfile

variable (host : SipHost T)

def handleRequest (request : JsVal) : Js T RouteScript Unit := do
  setRequest .route request
  setRequest .route404 request
  if ← RouteObject.isRoutable host .route then
    (← sipMessage .route).setProperty host (.str "enable-refer-retarget") (.str "yes")
    RouteObject.routeRequest host .route
  else
    RouteObject.routeRequest host .route404

/-- Requests handled one after another, each with the target domain in force. -/
def handleRequests : List (String × Nat) → Js T RouteScript Unit
  | [] => return ()
  | (targetDomain, i) :: requests => do
      modify fun w => { w with defaultTargetDomain := targetDomain }
      handleRequest host (.handle i)
      handleRequests requests

end RouteRequest

/-! ## The host functions -/

/-- The functions that read only read, and headers are removed by name in any
letter case. -/
structure SipHost.Reads (host : SipHost T) : Prop where
  isRequest : host.IsRequestReads
  isRequestExact : host.IsRequestExact
  getRequestUriUser : ∀ m,
    host.call .msgGetRequestUriUser [] m = (.ofUser m.requestUri.user, m)
  getToUser : ∀ m, host.call .msgGetToUser [] m = (.ofUser m.toUri.user, m)
  hdrRemove : ∀ name m, toLower name ∉ ["from", "f", "to", "t"] →
    (host.call .msgHdrRemove [.str name] m).2 = m.hdrRemove name

/-- The parts of a request that have a host-port. -/
inductive HostPart
  | requestUri
  | fromUri
  | toUri
  deriving DecidableEq

namespace HostPart

def setter : HostPart → HostFn
  | requestUri => .msgSetRequestUriHostPort
  | fromUri => .msgSetFromHostPort
  | toUri => .msgSetToHostPort

def hostPort (m : Message) : HostPart → String
  | requestUri => m.requestUri.hostPort
  | fromUri => m.fromUri.hostPort
  | toUri => m.toUri.hostPort

def setHostPort (hostPort : String) (m : Message) : HostPart → Message
  | requestUri => m.setRequestUriHostPort hostPort
  | fromUri => m.setFromHostPort hostPort
  | toUri => m.setToHostPort hostPort

end HostPart

/-- The host-port of a part is set, unless its setter fails. -/
def Message.trySetHostPort (fails : HostPart → Bool) (part : HostPart) (hostPort : String)
    (m : Message) : Message :=
  if fails part then m else part.setHostPort hostPort m

/-- The setters do what they should on non-empty texts, but for some of those of
host-ports, which leave the message as it is. -/
structure SipHost.SettersExcept (host : SipHost T) (fails : HostPart → Bool) : Prop where
  setProperty : host.SetsProperties
  setRequestUriUser : ∀ user m, user ≠ "" →
    (host.call .msgSetRequestUriUser [.str user] m).2 = m.setRequestUriUser user
  setHostPort : ∀ part hostPort m, hostPort ≠ "" →
    (host.call part.setter [.str hostPort] m).2 = m.trySetHostPort fails part hostPort

/-- The setters succeed on non-empty texts: each sets its own part. -/
structure SipHost.SettersSucceed (host : SipHost T) : Prop where
  setProperty : host.SetsProperties
  setRequestUriUser : ∀ user m, user ≠ "" →
    (host.call .msgSetRequestUriUser [.str user] m).2 = m.setRequestUriUser user
  setRequestUriHostPort : ∀ hostPort m, hostPort ≠ "" →
    (host.call .msgSetRequestUriHostPort [.str hostPort] m).2 = m.setRequestUriHostPort hostPort
  setFromHostPort : ∀ hostPort m, hostPort ≠ "" →
    (host.call .msgSetFromHostPort [.str hostPort] m).2 = m.setFromHostPort hostPort
  setToHostPort : ∀ hostPort m, hostPort ≠ "" →
    (host.call .msgSetToHostPort [.str hostPort] m).2 = m.setToHostPort hostPort

theorem SipHost.SettersSucceed.except {host : SipHost T} (setters : host.SettersSucceed) :
    host.SettersExcept fun _ => false := by
  refine ⟨setters.setProperty, setters.setRequestUriUser, ?_⟩
  intro part hostPort m filled
  cases part with
  | requestUri => exact setters.setRequestUriHostPort hostPort m filled
  | fromUri => exact setters.setFromHostPort hostPort m filled
  | toUri => exact setters.setToHostPort hostPort m filled

/-! ## What handling a request does to it -/

namespace Message

/-- A REFER whose Request-URI names no user while the To header does. -/
def Retargets (m : Message) : Prop :=
  m.method = some "REFER" ∧ m.requestUri.user.getD "" = "" ∧ m.toUri.user.getD "" ≠ ""
  deriving Decidable

/-- The Request-URI user that the request goes on with. -/
def retargetUser (m : Message) : Option String :=
  if m.Retargets then m.toUri.user else m.requestUri.user

/-- The headers that `isRoutable` removes, as it spells them. -/
def offending : List String := ["Remote-Party-Id", "Accept-Laguage"]

/-- The headers with another name, in any letter case, than the offending ones. -/
def keptHeaders (headers : List (String × String)) : List (String × String) :=
  headers.filter fun h => offending.all fun name => toLower h.1 != toLower name

theorem keptHeaders_eq (headers : List (String × String)) :
    keptHeaders headers =
      headers.filter fun h => toLower h.1 ∉ ["remote-party-id", "accept-laguage"] := by
  have names : toLower "Remote-Party-Id" = "remote-party-id" ∧
      toLower "Accept-Laguage" = "accept-laguage" := by decide
  apply List.filter_congr
  intro h _
  rw [Bool.eq_iff_iff]
  simp [offending, names]

/-- The request with the Request-URI user it goes on with. -/
def retarget (m : Message) : Message :=
  { m with requestUri := { m.requestUri with user := m.retargetUser } }

theorem retarget_eq_self {m : Message} (stays : ¬ m.Retargets) : m.retarget = m := by
  unfold retarget retargetUser
  rw [if_neg stays]

theorem retarget_eq {m : Message} (retargets : m.Retargets) {user : String}
    (toUser : m.toUri.user = some user) : m.retarget = m.setRequestUriUser user := by
  unfold retarget retargetUser setRequestUriUser
  rw [if_pos retargets, toUser]

/-- The request rewritten for its target domain. -/
def rewritten (d : String) (m : Message) : Message :=
  { m with
    requestUri := ⟨m.retargetUser, d⟩
    fromUri := { m.fromUri with hostPort := d }
    toUri := { m.toUri with hostPort := d }
    headers := keptHeaders m.headers }

/-- The request as it is left where some setters of host-ports fail. -/
def rewrittenExcept (fails : HostPart → Bool) (d : String) (m : Message) : Message :=
  ((((m.trySetHostPort fails .requestUri d).trySetHostPort fails .fromUri d).trySetHostPort fails
    .toUri d).retarget.hdrRemove "Remote-Party-Id").hdrRemove "Accept-Laguage"

theorem trySetHostPort_headers (fails : HostPart → Bool) (part : HostPart) (d : String)
    (m : Message) : (m.trySetHostPort fails part d).headers = m.headers := by
  unfold trySetHostPort
  split
  · rfl
  · cases part <;> rfl

/-- Setters that fail make no difference to the headers. -/
theorem rewrittenExcept_headers (fails : HostPart → Bool) (d : String) (m : Message) :
    (m.rewrittenExcept fails d).headers = keptHeaders m.headers := by
  have names : toLower "Remote-Party-Id" = "remote-party-id" ∧
      toLower "Accept-Laguage" = "accept-laguage" := by decide
  unfold rewrittenExcept
  rw [hdrRemove_hdrRemove, keptHeaders_eq, names.1, names.2]
  change List.filter _ (Message.headers (Message.trySetHostPort _ _ _ _)) = _
  rw [trySetHostPort_headers, trySetHostPort_headers, trySetHostPort_headers]

def accepted (m : Message) : Message :=
  ((m.setProperty "enable-refer-retarget" "yes").setProperty "transaction-timeout" "6400").setProperty
    "route-action" "continue"

def rejected (m : Message) : Message :=
  (m.setProperty "reject-reason" "No route available").setProperty "route-action" "reject"

/-- What handling does to a request when the target domain is `d`. -/
def routed (d : String) (m : Message) : Message :=
  if d = "" then m.rejected else (m.rewritten d).accepted

def routedExcept (fails : HostPart → Bool) (d : String) (m : Message) : Message :=
  if d = "" then m.rejected else (m.rewrittenExcept fails d).accepted

end Message

/-! ## The methods on a bound object -/

section Bound

variable {host : SipHost T} {fails : HostPart → Bool} {this : RouteObject} {i : Nat}
  {w : World T RouteScript}

theorem isUnset_ofUser {S : Type} (user : Option String) (w : World T S) :
    (JsVal.ofUser user).isUnset w = .ok (decide (user.getD "" = "")) w := by
  cases user with
  | none => rfl
  | some user =>
      have answer : (some (utf16Length user) == some 0) = decide (user = "") := by
        rw [Bool.eq_iff_iff]
        simp [← utf16Length_eq_zero]
      exact congrArg (EStateM.Result.ok · w) answer

theorem isFilled_ofUser {S : Type} (user : Option String) (w : World T S) :
    (JsVal.ofUser user).isFilled w = .ok (decide (user.getD "" ≠ "")) w := by
  cases user with
  | none => rfl
  | some user =>
      have answer : (some (utf16Length user)).any (· > 0) = decide (user ≠ "") := by
        simp [← utf16Length_eq_zero, Nat.pos_iff_ne_zero]
      exact congrArg (EStateM.Result.ok · w) answer

theorem getRequestUriUser_handle (reads : host.Reads) (w : World T RouteScript) :
    SIPMessage.getRequestUriUser host ⟨.handle i⟩ w =
      .ok (.ofUser (w.messages i).requestUri.user) w :=
  invoke_reads i w (reads.getRequestUriUser (w.messages i))

theorem getToUser_handle (reads : host.Reads) (w : World T RouteScript) :
    SIPMessage.getToUser host ⟨.handle i⟩ w = .ok (.ofUser (w.messages i).toUri.user) w :=
  invoke_reads i w (reads.getToUser (w.messages i))

theorem setRequestUriUser_handle (setters : host.SettersExcept fails) {user : String}
    (filled : user ≠ "") (w : World T RouteScript) :
    SIPMessage.setRequestUriUser host ⟨.handle i⟩ (.str user) w =
      .ok () (w.onMessage i (Message.setRequestUriUser user)) :=
  invoke_effect i w fun m => setters.setRequestUriUser user m filled

theorem setRequestUriHostPort_handle (setters : host.SettersExcept fails) {d : String}
    (filled : d ≠ "") (w : World T RouteScript) :
    SIPMessage.setRequestUriHostPort host ⟨.handle i⟩ (.str d) w =
      .ok () (w.onMessage i (Message.trySetHostPort fails .requestUri d)) :=
  invoke_effect i w fun m => setters.setHostPort .requestUri d m filled

theorem setFromHostPort_handle (setters : host.SettersExcept fails) {d : String} (filled : d ≠ "")
    (w : World T RouteScript) :
    SIPMessage.setFromHostPort host ⟨.handle i⟩ (.str d) w =
      .ok () (w.onMessage i (Message.trySetHostPort fails .fromUri d)) :=
  invoke_effect i w fun m => setters.setHostPort .fromUri d m filled

theorem setToHostPort_handle (setters : host.SettersExcept fails) {d : String} (filled : d ≠ "")
    (w : World T RouteScript) :
    SIPMessage.setToHostPort host ⟨.handle i⟩ (.str d) w =
      .ok () (w.onMessage i (Message.trySetHostPort fails .toUri d)) :=
  invoke_effect i w fun m => setters.setHostPort .toUri d m filled

theorem hdrRemove_handle {S : Type} (reads : host.Reads) {name : String}
    (other : toLower name ∉ ["from", "f", "to", "t"]) (w : World T S) :
    SIPMessage.hdrRemove host ⟨.handle i⟩ (.str name) w =
      .ok () (w.onMessage i (Message.hdrRemove name)) :=
  invoke_effect i w fun m => reads.hdrRemove name m other

theorem setTargetDomain_bound (setters : host.SettersExcept fails)
    (bound : w.script this = some ⟨.handle i⟩) {d : String} (filled : d ≠ "") :
    RouteProfile.setTargetDomain host this (.str d) w =
      .ok () (w.onMessage i fun m =>
        ((m.trySetHostPort fails .requestUri d).trySetHostPort fails .fromUri d).trySetHostPort fails
          .toUri d) := by
  unfold RouteProfile.setTargetDomain
  refine and_then (sipMessage_bound bound) ?_
  refine and_then (setRequestUriHostPort_handle setters filled w) ?_
  refine and_then (sipMessage_bound bound) ?_
  refine and_then (setFromHostPort_handle setters filled _) ?_
  refine and_then (sipMessage_bound bound) ?_
  rw [setToHostPort_handle setters filled]
  simp only [World.onMessage_onMessage]
  rfl

/-- The REFER branch sets the Request-URI user that `retarget` does. -/
theorem retargetRefer_bound (reads : host.Reads) (setters : host.SettersExcept fails)
    (bound : w.script this = some ⟨.handle i⟩) :
    Route.retargetRefer host this w = .ok () (w.onMessage i Message.retarget) := by
  have stays (kept : ¬ (w.messages i).Retargets) : w.onMessage i Message.retarget = w :=
    World.onMessage_eq_self w i (Message.retarget_eq_self kept)
  unfold Route.retargetRefer
  refine and_then (sipMessage_bound bound) ?_
  refine and_then (isRequest_handle host i w reads.isRequest (.str "REFER")) ?_
  rw [reads.isRequestExact]
  by_cases refer : (w.messages i).method = some "REFER"
  case neg =>
    rw [if_neg (by simpa using refer), stays fun retargets => refer retargets.1]
    rfl
  rw [if_pos (by simpa using refer)]
  refine and_then (sipMessage_bound bound) ?_
  refine and_then (getRequestUriUser_handle reads w) ?_
  refine and_then (isUnset_ofUser _ w) ?_
  by_cases unset : (w.messages i).requestUri.user.getD "" = ""
  case neg =>
    rw [if_neg (by simpa using unset), stays fun retargets => unset retargets.2.1]
    rfl
  rw [if_pos (by simpa using unset)]
  refine and_then (sipMessage_bound bound) ?_
  refine and_then (getToUser_handle reads w) ?_
  refine and_then (isFilled_ofUser _ w) ?_
  by_cases filled : (w.messages i).toUri.user.getD "" = ""
  case pos =>
    rw [if_neg (by simpa using filled), stays fun retargets => retargets.2.2 filled]
    rfl
  rw [if_pos (by simpa using filled)]
  refine and_then (sipMessage_bound bound) ?_
  cases toUser : (w.messages i).toUri.user with
  | none =>
      rw [toUser] at filled
      exact absurd rfl filled
  | some user =>
      have named : user ≠ "" := by
        rw [toUser] at filled
        exact filled
      rw [World.onMessage_congr w i (Message.retarget_eq ⟨refer, unset, filled⟩ toUser)]
      exact setRequestUriUser_handle setters named w

theorem targetDomain_unset (unset : cStr w.defaultTargetDomain = "") :
    ∃ target, SBController.jsMsgGetDefaultTargetDomain w = .ok target w ∧
      target.isUnset w = .ok true w := by
  unfold SBController.jsMsgGetDefaultTargetDomain
  rw [get_bind]
  split
  · exact ⟨.undefined, rfl, rfl⟩
  · refine ⟨.str (cStr w.defaultTargetDomain), rfl, ?_⟩
    rw [unset]
    rfl

theorem targetDomain_set (filled : cStr w.defaultTargetDomain ≠ "") :
    SBController.jsMsgGetDefaultTargetDomain w = .ok (.str (cStr w.defaultTargetDomain)) w := by
  unfold SBController.jsMsgGetDefaultTargetDomain
  rw [get_bind, if_neg]
  · rfl
  · intro empty
    rw [String.isEmpty_iff] at empty
    rw [empty] at filled
    exact filled rfl

/-- When all setters succeed they make the rewritten message. -/
theorem rewrittenExcept_none (d : String) (m : Message) :
    m.rewrittenExcept (fun _ => false) d = m.rewritten d := by
  unfold Message.rewritten
  rw [← Message.rewrittenExcept_headers (fun _ => false) d m]
  rfl

theorem isRoutable_rejects (unset : cStr w.defaultTargetDomain = "") :
    Route.isRoutable host this w = .ok false w := by
  obtain ⟨target, domain, isUnset⟩ := targetDomain_unset unset
  unfold Route.isRoutable
  refine and_then domain ?_
  refine and_then isUnset ?_
  rfl

theorem isRoutable_rewrites (reads : host.Reads) (setters : host.SettersExcept fails)
    (bound : w.script this = some ⟨.handle i⟩) (filled : cStr w.defaultTargetDomain ≠ "") :
    Route.isRoutable host this w =
      .ok true (w.onMessage i (Message.rewrittenExcept fails (cStr w.defaultTargetDomain))) := by
  unfold Route.isRoutable
  refine and_then (targetDomain_set filled) ?_
  refine and_then (isUnset_ofUser (some (cStr w.defaultTargetDomain)) w) ?_
  rw [if_neg (by simpa using filled)]
  refine and_then (setTargetDomain_bound setters bound filled) ?_
  refine and_then (retargetRefer_bound reads setters bound) ?_
  refine and_then (sipMessage_bound bound) ?_
  refine and_then (hdrRemove_handle reads (by decide) _) ?_
  refine and_then (sipMessage_bound bound) ?_
  refine and_then (hdrRemove_handle reads (by decide) _) ?_
  simp only [World.onMessage_onMessage]
  rfl

theorem routeRequest_bound (sets : host.SetsProperties)
    (bound : w.script this = some ⟨.handle i⟩) :
    RouteProfile.routeRequest host this w =
      .ok () (w.onMessage i fun m =>
        (m.setProperty "transaction-timeout" "6400").setProperty "route-action" "continue") := by
  unfold RouteProfile.routeRequest RouteProfile.setTransactionTimeout RouteProfile.routeAccept
  refine and_then (and_then (sipMessage_bound bound)
    (setProperty_handle host i w sets (by decide) (by decide))) ?_
  refine and_then (sipMessage_bound bound) ?_
  rw [setProperty_handle host i _ sets (by decide) (by decide), World.onMessage_onMessage]
  rfl

theorem routeRequest404_bound (sets : host.SetsProperties)
    (bound : w.script this = some ⟨.handle i⟩) :
    Route404.routeRequest host this w = .ok () (w.onMessage i Message.rejected) := by
  unfold Route404.routeRequest RouteProfile.setRejectReason RouteProfile.routeReject
  refine and_then (and_then (sipMessage_bound bound)
    (setProperty_handle host i w sets (by decide) (by decide))) ?_
  refine and_then (sipMessage_bound bound) ?_
  rw [setProperty_handle host i _ sets (by decide) (by decide), World.onMessage_onMessage]
  rfl

end Bound

/-! ## Whole requests -/

/-- Both objects are bound to the message. -/
def World.bound (i : Nat) (w : World T RouteScript) : World T RouteScript :=
  { w with script := fun _ => some ⟨.handle i⟩ }

section Requests

open RouteRequest

variable {host : SipHost T}

theorem setRequest_both (i : Nat) (w : World T RouteScript) (f : Js T RouteScript Unit) :
    (do
      RouteProfile.setRequest .route (.handle i)
      RouteProfile.setRequest .route404 (.handle i)
      f) w = f (w.bound i) := by
  have rebound : Function.update (Function.update w.script .route (some ⟨.handle i⟩)) .route404
      (some ⟨.handle i⟩) = fun _ => some ⟨.handle i⟩ := by
    funext object
    cases object <;> rfl
  unfold World.bound
  rw [← rebound]
  rfl

theorem handleRequest_except {fails : HostPart → Bool} (reads : host.Reads)
    (setters : host.SettersExcept fails) (i : Nat) (w : World T RouteScript) :
    handleRequest host (.handle i) w =
      .ok () ((w.bound i).onMessage i (Message.routedExcept fails (cStr w.defaultTargetDomain))) := by
  unfold handleRequest
  rw [setRequest_both]
  by_cases unset : cStr w.defaultTargetDomain = ""
  case pos =>
    refine and_then (isRoutable_rejects unset) ?_
    rw [if_neg Bool.false_ne_true]
    refine (routeRequest404_bound setters.setProperty rfl).trans ?_
    unfold Message.routedExcept
    simp only [if_pos unset]
  case neg =>
    refine and_then (isRoutable_rewrites reads setters rfl unset) ?_
    rw [if_pos rfl]
    refine and_then (sipMessage_bound rfl) ?_
    refine and_then (setProperty_handle host i _ setters.setProperty (by decide) (by decide)) ?_
    refine (routeRequest_bound setters.setProperty rfl).trans ?_
    simp only [World.onMessage_onMessage]
    unfold Message.routedExcept
    simp only [if_neg unset]
    rfl

/-- Handling a request does to it what `routed` says and nothing else, whatever
the two objects were bound to. -/
theorem handleRequest_eq (reads : host.Reads) (setters : host.SettersSucceed) (i : Nat)
    (w : World T RouteScript) :
    handleRequest host (.handle i) w =
      .ok () ((w.bound i).onMessage i (Message.routed (cStr w.defaultTargetDomain))) := by
  have routed (d : String) (m : Message) : m.routedExcept (fun _ => false) d = m.routed d := by
    unfold Message.routedExcept Message.routed
    rw [rewrittenExcept_none]
  rw [handleRequest_except reads setters.except]
  exact congrArg (EStateM.Result.ok ()) (World.onMessage_congr _ i (routed _ _))

/-- The target domains a message is handled with, in order. -/
def domainsFor (i : Nat) (requests : List (String × Nat)) : List String :=
  (requests.filter (·.2 = i)).map fun request => cStr request.1

/-- Over a sequence of requests each message takes the changes of its own
handlings, one after another. -/
theorem handleRequests_eq (reads : host.Reads) (setters : host.SettersSucceed)
    (requests : List (String × Nat)) (w : World T RouteScript) :
    ∃ w', handleRequests host requests w = .ok () w' ∧ w'.transactions = w.transactions ∧
      ∀ i, w'.messages i =
        (domainsFor i requests).foldl (fun m d => m.routed d) (w.messages i) := by
  induction requests generalizing w with
  | nil => exact ⟨w, rfl, rfl, fun _ => rfl⟩
  | cons request requests ih =>
      obtain ⟨targetDomain, j⟩ := request
      have first := handleRequest_eq reads setters j
        { w with defaultTargetDomain := targetDomain }
      obtain ⟨w', run, transactions, messages⟩ := ih
        (({ w with defaultTargetDomain := targetDomain } : World T RouteScript).bound j
          |>.onMessage j (Message.routed (cStr targetDomain)))
      refine ⟨w', ?_, transactions, ?_⟩
      · unfold handleRequests
        exact and_then rfl (and_then first run)
      · intro i
        rw [messages i]
        by_cases own : j = i
        case pos =>
          subst own
          simp [domainsFor, World.bound]
        case neg =>
          have untouched : ∀ w : World T RouteScript,
              (w.onMessage j (Message.routed (cStr targetDomain))).messages i = w.messages i :=
            fun w => Function.update_of_ne (Ne.symm own) ..
          rw [untouched]
          simp [domainsFor, World.bound, own]

end Requests

/-! ## What it means for one request -/

namespace Message

/-- Rejected: nothing but the decision and its reason is new. -/
structure Rejected (m m' : Message) : Prop where
  routeAction : m'.properties "route-action" = some "reject"
  rejectReason : m'.properties "reject-reason" = some "No route available"
  otherProperties : ∀ name, name ∉ ["route-action", "reject-reason"] →
    m'.properties name = m.properties name
  rest : m' = { m with properties := m'.properties }

/-- Accepted for the target domain `d`. -/
structure Accepted (m : Message) (d : String) (m' : Message) : Prop where
  routeAction : m'.properties "route-action" = some "continue"
  transactionTimeout : m'.properties "transaction-timeout" = some "6400"
  enableReferRetarget : m'.properties "enable-refer-retarget" = some "yes"
  otherProperties :
    ∀ name, name ∉ ["route-action", "transaction-timeout", "enable-refer-retarget"] →
      m'.properties name = m.properties name
  requestUriHostPort : m'.requestUri.hostPort = d
  fromUri : m'.fromUri = ⟨m.fromUri.user, d⟩
  toUri : m'.toUri = ⟨m.toUri.user, d⟩
  retargeted : m.Retargets → m'.requestUri.user = m.toUri.user
  userKept : ¬ m.Retargets → m'.requestUri.user = m.requestUri.user
  headers : m'.headers =
    m.headers.filter fun h => toLower h.1 ∉ ["remote-party-id", "accept-laguage"]
  method : m'.method = m.method
  userData : m'.userData = m.userData

theorem routed_rejected (m : Message) : m.Rejected (m.routed "") := by
  refine ⟨rfl, rfl, ?_, rfl⟩
  intro name other
  rw [List.mem_pair, not_or] at other
  unfold routed rejected setProperty
  rw [if_pos rfl]
  exact (Function.update_of_ne other.1 ..).trans (Function.update_of_ne other.2 ..)

theorem routed_accepted {d : String} (filled : d ≠ "") (m : Message) :
    m.Accepted d (m.routed d) := by
  have routed : m.routed d = (m.rewritten d).accepted := if_neg filled
  rw [routed]
  refine ⟨rfl, rfl, rfl, ?_, rfl, rfl, rfl, ?_, ?_, keptHeaders_eq m.headers, rfl, rfl⟩
  · intro name other
    simp only [List.mem_cons, List.not_mem_nil, or_false, not_or] at other
    obtain ⟨action, timeout, retarget⟩ := other
    exact ((Function.update_of_ne action ..).trans (Function.update_of_ne timeout ..)).trans
      (Function.update_of_ne retarget ..)
  · intro retargets
    exact if_pos retargets
  · intro stays
    exact if_neg stays

/-- A request that was accepted is not retargeted again. -/
theorem Accepted.not_retargets {d : String} {m m' : Message} (accepted : m.Accepted d m') :
    ¬ m'.Retargets := by
  intro retargets
  rcases retargets with ⟨refer, unset, filled⟩
  rw [accepted.method] at refer
  rw [accepted.toUri] at filled
  by_cases retargets : m.Retargets
  case pos =>
    rw [accepted.retargeted retargets] at unset
    exact filled unset
  case neg =>
    rw [accepted.userKept retargets] at unset
    exact retargets ⟨refer, unset, filled⟩

theorem Accepted.unique {d : String} {m m' m'' : Message} (first : m.Accepted d m')
    (second : m'.Accepted d m'') : m'' = m' := by
  have properties : m''.properties = m'.properties := by
    funext name
    by_cases set : name ∈ ["route-action", "transaction-timeout", "enable-refer-retarget"]
    case neg => exact second.otherProperties name set
    simp only [List.mem_cons, List.not_mem_nil, or_false] at set
    rcases set with rfl | rfl | rfl
    · exact second.routeAction.trans first.routeAction.symm
    · exact second.transactionTimeout.trans first.transactionTimeout.symm
    · exact second.enableReferRetarget.trans first.enableReferRetarget.symm
  have requestUri : m''.requestUri = m'.requestUri :=
    SipUri.ext (second.userKept first.not_retargets)
      (second.requestUriHostPort.trans first.requestUriHostPort.symm)
  have headers : m''.headers = m'.headers := by
    rw [second.headers, first.headers, List.filter_filter]
    simp only [Bool.and_self]
  apply Message.ext
  · exact second.method
  · exact requestUri
  · rw [second.fromUri, first.fromUri]
  · rw [second.toUri, first.toUri]
  · exact headers
  · exact properties
  · exact second.userData

theorem Rejected.unique {m m' m'' : Message} (first : Rejected m m') (second : Rejected m' m'') :
    m'' = m' := by
  have properties : m''.properties = m'.properties := by
    funext name
    by_cases set : name ∈ ["route-action", "reject-reason"]
    case neg => exact second.otherProperties name set
    rw [List.mem_pair] at set
    rcases set with rfl | rfl
    · exact second.routeAction.trans first.routeAction.symm
    · exact second.rejectReason.trans first.rejectReason.symm
  rw [second.rest, properties]

/-- Handling a request again under the same domain changes nothing. -/
theorem routed_idempotent (d : String) (m : Message) : (m.routed d).routed d = m.routed d := by
  by_cases unset : d = ""
  case pos =>
    subst unset
    exact (routed_rejected m).unique (routed_rejected _)
  case neg => exact (routed_accepted unset m).unique (routed_accepted unset _)

end Message

/-- Handling requests is independent from one request to the next: each message
takes the changes that the target domains it is handled with stand for, and
nothing else changes. Without a domain a request is rejected, with one it is
accepted for it, and handling it again changes nothing. -/
theorem routing_decides {host : SipHost T} (reads : host.Reads) (setters : host.SettersSucceed) :
    (∀ (requests : List (String × Nat)) (w : World T RouteScript),
      ∃ w', RouteRequest.handleRequests host requests w = .ok () w' ∧
        w'.transactions = w.transactions ∧
        ∀ i, w'.messages i =
          (domainsFor i requests).foldl (fun m d => m.routed d) (w.messages i)) ∧
      (∀ m : Message, m.Rejected (m.routed "")) ∧
      (∀ (d : String) (m : Message), d ≠ "" → m.Accepted d (m.routed d)) ∧
      ∀ (d : String) (m : Message), (m.routed d).routed d = m.routed d := by
  refine ⟨handleRequests_eq reads setters, Message.routed_rejected, ?_, Message.routed_idempotent⟩
  intro d m filled
  exact Message.routed_accepted filled m

theorem memoryHost_reads : memoryHost.Reads :=
  ⟨memoryHost_isRequestReads, memoryHost_isRequestExact, fun _ => rfl, fun _ => rfl,
    fun _ _ _ => rfl⟩

theorem memoryHost_settersSucceed : memoryHost.SettersSucceed :=
  ⟨memoryHost_setsProperties, fun _ _ _ => rfl, fun _ _ _ => rfl, fun _ _ _ => rfl,
    fun _ _ _ => rfl⟩

/-- Every message is a REFER to a user that only its To header names. -/
def referWorld : World MemoryTransaction RouteScript where
  messages _ :=
    { method := some "REFER"
      requestUri := ⟨none, "192.168.1.10"⟩
      fromUri := ⟨some "bob", "192.168.1.20"⟩
      toUri := ⟨some "alice", "192.168.1.10"⟩
      headers := [("remote-party-id", "bob"), ("Refer-To", "carol")]
      properties := fun _ => none
      userData := none }
  transactions _ := ⟨"", none, fun _ => none⟩
  defaultTargetDomain := ""
  script _ := none

/-- One message is routed twice, another one is rejected in between. -/
theorem routing_decides_refer :
    ∃ w', RouteRequest.handleRequests memoryHost
        [("example.com", 0), ("", 1), ("example.com", 0)] referWorld = .ok () w' ∧
      (w'.messages 0).requestUri = ⟨some "alice", "example.com"⟩ ∧
      (w'.messages 0).headers = [("Refer-To", "carol")] ∧
      (w'.messages 0).properties "route-action" = some "continue" ∧
      (w'.messages 1).requestUri = ⟨none, "192.168.1.10"⟩ ∧
      (w'.messages 1).properties "route-action" = some "reject" := by
  obtain ⟨w', run, -, messages⟩ :=
    (routing_decides memoryHost_reads memoryHost_settersSucceed).1
      [("example.com", 0), ("", 1), ("example.com", 0)] referWorld
  refine ⟨w', run, ?_⟩
  rw [messages 0, messages 1]
  decide

end SipXsbc
