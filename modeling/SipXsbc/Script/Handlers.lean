import SipXsbc.Script.HeaderScrubbing
import Mathlib.Data.List.Induction

/-!
# The four handlers on many messages

Each message passes the handlers as the stack calls them: on its way in, when it is routed,
on its way out, and for its responses. The handlers of many messages run in turn, and the
routing script keeps its two objects from one to the next.

What a message has become is written down at once from the handlings that were its own
(`Message.settled`): the last target domain, the last decision, and the headers that any of
them removes.
-/

namespace SipXsbc

open Keyed

variable {T S : Type}

namespace InboundRequest

def handleRequest (_request : JsVal) : Js T S Unit :=
  return ()

end InboundRequest

namespace OutboundResponse

def handleRequest (_request : JsVal) : Js T S Unit :=
  return ()

end OutboundResponse

/-! ## Handlings -/

/-- What a handler is called for. A request is routed with the target domain in force. -/
inductive Handling
  | inboundRequest
  | routeRequest (targetDomain : String)
  | outboundRequest
  | outboundResponse
  deriving DecidableEq

namespace Handling

/-- Call the handler with the handle of a message. -/
def perform (host : SipHost T) (i : Nat) : Handling → Js T RouteScript Unit
  | inboundRequest => InboundRequest.handleRequest (.handle i)
  | routeRequest targetDomain => do
      modify fun w => { w with defaultTargetDomain := targetDomain }
      RouteRequest.handleRequest host (.handle i)
  | outboundRequest => OutboundRequest.handleRequest host (.handle i)
  | outboundResponse => OutboundResponse.handleRequest (.handle i)

/-- Handlings of messages, one after another. -/
def performAll (host : SipHost T) : List (Nat × Handling) → Js T RouteScript Unit
  | [] => return ()
  | handling :: handlings => do
      handling.2.perform host handling.1
      performAll host handlings

/-- What a handling does to its message. -/
def effect : Handling → Message → Message
  | inboundRequest => id
  | routeRequest targetDomain => Message.routed (cStr targetDomain)
  | outboundRequest => Message.scrubbed
  | outboundResponse => id

/-- The target domain that a request is accepted for. -/
def domain : Handling → Option String
  | routeRequest targetDomain => if cStr targetDomain = "" then none else some (cStr targetDomain)
  | _ => none

/-- The names of the headers that a handling removes, in lower case. -/
def removes : Handling → List String
  | routeRequest targetDomain =>
      if cStr targetDomain = "" then [] else ["remote-party-id", "accept-laguage"]
  | outboundRequest => ["accept-language", "remote-party-id"]
  | _ => []

/-- The properties that a handling sets, in order. -/
def sets : Handling → List (String × String)
  | routeRequest targetDomain =>
      if cStr targetDomain = "" then
        [("reject-reason", "No route available"), ("route-action", "reject")]
      else
        [("enable-refer-retarget", "yes"), ("transaction-timeout", "6400"),
          ("route-action", "continue")]
  | _ => []

/-- The handlings of one message. -/
def own (i : Nat) (handlings : List (Nat × Handling)) : List Handling :=
  (handlings.filter (·.1 = i)).map (·.2)

theorem mem_own {i : Nat} {handlings : List (Nat × Handling)} {handling : Handling} :
    handling ∈ own i handlings ↔ (i, handling) ∈ handlings := by
  simp [own]

end Handling

/-! ## What a message becomes -/

namespace Message

open Handling

/-- The host-port after some handlings. -/
def settledHostPort (own : List Handling) (hostPort : String) : String :=
  (own.filterMap domain).getLastD hostPort

/-- The message after its own handlings. -/
def settled (own : List Handling) (m : Message) : Message :=
  { m with
    requestUri :=
      ⟨if own.filterMap domain = [] then m.requestUri.user else m.retargetUser,
        settledHostPort own m.requestUri.hostPort⟩
    fromUri := { m.fromUri with hostPort := settledHostPort own m.fromUri.hostPort }
    toUri := { m.toUri with hostPort := settledHostPort own m.toUri.hostPort }
    headers := m.headers.filter fun h => toLower h.1 ∉ own.flatMap removes
    properties := fun name => (lastValue (own.flatMap sets) name).or (m.properties name) }

theorem settled_nil (m : Message) : m.settled [] = m := by
  have headers : (m.headers.filter fun h => toLower h.1 ∉ ([] : List Handling).flatMap removes) =
      m.headers := by simp
  unfold settled
  rw [headers]
  rfl

/-- A request is not retargeted twice. -/
theorem retargetUser_settled (own : List Handling) (m : Message) :
    (m.settled own).retargetUser = m.retargetUser := by
  by_cases never : own.filterMap domain = []
  case pos =>
    have user : (m.settled own).requestUri.user = m.requestUri.user := if_pos never
    have same : (m.settled own).Retargets ↔ m.Retargets := by
      unfold Retargets
      rw [user]
      exact Iff.rfl
    unfold retargetUser
    by_cases retargets : m.Retargets
    · rw [if_pos (same.mpr retargets), if_pos retargets]
      rfl
    · rw [if_neg (mt same.mp retargets), if_neg retargets, user]
  case neg =>
    have user : (m.settled own).requestUri.user = m.retargetUser := if_neg never
    by_cases retargets : m.Retargets
    case pos =>
      have toUser : m.retargetUser = m.toUri.user := if_pos retargets
      have stays : ¬ (m.settled own).Retargets := by
        intro again
        obtain ⟨-, unset, filled⟩ := again
        rw [user, toUser] at unset
        exact filled unset
      rw [retargetUser, if_neg stays, user]
    case neg =>
      have same : m.retargetUser = m.requestUri.user := if_neg retargets
      have stays : ¬ (m.settled own).Retargets := by
        intro again
        obtain ⟨refer, unset, filled⟩ := again
        rw [user, same] at unset
        exact retargets ⟨refer, unset, filled⟩
      rw [retargetUser, if_neg stays, user]

/-- What two handlings keep of the headers, one after the other. -/
theorem filter_headers_append (headers : List (String × String)) (names names' : List String) :
    (headers.filter fun h => toLower h.1 ∉ names).filter (fun h => toLower h.1 ∉ names') =
      headers.filter fun h => toLower h.1 ∉ names ++ names' := by
  rw [List.filter_filter]
  apply List.filter_congr
  intro h _
  rw [Bool.eq_iff_iff]
  simp [and_comm]

/-- What is written down of one more handling that accepts nothing. -/
theorem settled_snoc_of_none (own : List Handling) {handling : Handling}
    (none : handling.domain = none) (m : Message) :
    m.settled (own ++ [handling]) =
      { m.settled own with
        headers := (m.settled own).headers.filter fun h => toLower h.1 ∉ handling.removes
        properties := fun name =>
          (lastValue handling.sets name).or ((m.settled own).properties name) } := by
  have domains : (own ++ [handling]).filterMap domain = own.filterMap domain := by
    rw [List.filterMap_append, List.filterMap_cons_none none, List.filterMap_nil, List.append_nil]
  unfold settled settledHostPort
  simp only [domains, List.flatMap_append, List.flatMap_singleton, lastValue_append,
    Option.or_assoc, filter_headers_append]

/-- What is written down of one more handling that accepts a request. -/
theorem settled_snoc_of_some (own : List Handling) {handling : Handling} {d : String}
    (some : handling.domain = some d) (m : Message) :
    m.settled (own ++ [handling]) =
      { m.settled own with
        requestUri := ⟨m.retargetUser, d⟩
        fromUri := { m.fromUri with hostPort := d }
        toUri := { m.toUri with hostPort := d }
        headers := (m.settled own).headers.filter fun h => toLower h.1 ∉ handling.removes
        properties := fun name =>
          (lastValue handling.sets name).or ((m.settled own).properties name) } := by
  have domains : (own ++ [handling]).filterMap domain = own.filterMap domain ++ [d] := by
    rw [List.filterMap_append, List.filterMap_cons_some some, List.filterMap_nil]
  unfold settled settledHostPort
  simp only [domains, List.getLastD_concat, List.append_eq_nil_iff, List.cons_ne_nil, and_false,
    if_false, List.flatMap_append, List.flatMap_singleton, lastValue_append, Option.or_assoc,
    filter_headers_append]

theorem rejected_eq (m : Message) :
    m.rejected = assignAll withProperty m
      [("reject-reason", "No route available"), ("route-action", "reject")] := rfl

theorem accepted_eq (m : Message) :
    m.accepted = assignAll withProperty m
      [("enable-refer-retarget", "yes"), ("transaction-timeout", "6400"),
        ("route-action", "continue")] := rfl

/-- One more handling does to a message what is written down of it. -/
theorem settled_snoc (own : List Handling) (handling : Handling) (m : Message) :
    m.settled (own ++ [handling]) = handling.effect (m.settled own) := by
  cases handling with
  | inboundRequest =>
      rw [settled_snoc_of_none own rfl]
      simp [removes, sets, effect, lastValue]
  | outboundResponse =>
      rw [settled_snoc_of_none own rfl]
      simp [removes, sets, effect, lastValue]
  | outboundRequest =>
      rw [settled_snoc_of_none own rfl]
      rfl
  | routeRequest targetDomain =>
      by_cases unset : cStr targetDomain = ""
      · have sets : (routeRequest targetDomain).sets =
            [("reject-reason", "No route available"), ("route-action", "reject")] := if_pos unset
        have removes : (routeRequest targetDomain).removes = [] := if_pos unset
        have rejects : (routeRequest targetDomain).domain = none := if_pos unset
        have does : (routeRequest targetDomain).effect (m.settled own) = (m.settled own).rejected :=
          if_pos unset
        rw [settled_snoc_of_none own rejects, sets, removes, does, rejected_eq, assignAll_eq]
        simp
      · have sets : (routeRequest targetDomain).sets =
            [("enable-refer-retarget", "yes"), ("transaction-timeout", "6400"),
              ("route-action", "continue")] := if_neg unset
        have removes : (routeRequest targetDomain).removes =
            ["remote-party-id", "accept-laguage"] := if_neg unset
        have accepts : (routeRequest targetDomain).domain = some (cStr targetDomain) :=
          if_neg unset
        have does : (routeRequest targetDomain).effect (m.settled own) =
            ((m.settled own).rewritten (cStr targetDomain)).accepted := if_neg unset
        rw [settled_snoc_of_some own accepts, sets, removes, does, accepted_eq, assignAll_eq]
        unfold rewritten
        rw [retargetUser_settled, keptHeaders_eq]
        rfl

/-- Handlings of one message make of it what is written down. -/
theorem foldl_effect (own : List Handling) (m : Message) :
    own.foldl (fun m handling => handling.effect m) m = m.settled own := by
  induction own using List.reverseRecOn with
  | nil => exact m.settled_nil.symm
  | append_singleton own handling ih =>
      rw [List.foldl_append, ih, settled_snoc]
      rfl

end Message

/-! ## One target domain -/

/-- The URIs of a message are as they were. -/
structure KeepsUris (m m' : Message) : Prop where
  requestUri : m'.requestUri = m.requestUri
  fromUri : m'.fromUri = m.fromUri
  toUri : m'.toUri = m.toUri

/-- The URIs of a message are of one domain, under their users; the Request-URI may have
been given one. -/
structure SentTo (d : String) (m m' : Message) : Prop where
  requestUri : m'.requestUri = ⟨m.retargetUser, d⟩
  fromUri : m'.fromUri = ⟨m.fromUri.user, d⟩
  toUri : m'.toUri = ⟨m.toUri.user, d⟩

/-- A message was routed for the domain in force, rejected where there is none, or was not
routed. -/
structure HandledFor (d : String) (own : List Handling) (m m' : Message) : Prop where
  routed : d ≠ "" → (∃ targetDomain, .routeRequest targetDomain ∈ own) →
    SentTo d m m' ∧ m'.properties "route-action" = some "continue"
  rejected : d = "" → (∃ targetDomain, .routeRequest targetDomain ∈ own) →
    KeepsUris m m' ∧ m'.properties "route-action" = some "reject"
  passed : (∀ targetDomain, .routeRequest targetDomain ∉ own) →
    KeepsUris m m' ∧ m'.properties "route-action" = m.properties "route-action"

namespace Message

open Handling

/-- The host-port of a message that is accepted for one domain. -/
theorem settledHostPort_eq {own : List Handling} {d : String} (accepted : own.filterMap domain ≠ [])
    (all : ∀ d' ∈ own.filterMap domain, d' = d) (hostPort : String) :
    settledHostPort own hostPort = d := by
  unfold settledHostPort
  rcases List.eq_nil_or_concat (own.filterMap domain) with none | ⟨before, last, split⟩
  · exact absurd none accepted
  · rw [List.concat_eq_append] at split
    rw [split] at all ⊢
    rw [List.getLastD_concat]
    exact all last (List.mem_append_right before List.mem_cons_self)

/-- Only routing decides, and it decides by the domain. -/
theorem mem_sets_routeAction {handling : Handling} {value : String} :
    ("route-action", value) ∈ handling.sets ↔
      ∃ d, handling = .routeRequest d ∧ value = if cStr d = "" then "reject" else "continue" := by
  cases handling with
  | routeRequest d => by_cases unset : cStr d = "" <;> simp [sets, unset]
  | inboundRequest => simp [sets]
  | outboundRequest => simp [sets]
  | outboundResponse => simp [sets]

section InForce

variable {own : List Handling} {targetDomain : String}

theorem domain_inForce (inForce : ∀ d, .routeRequest d ∈ own → d = targetDomain) {d : String}
    (found : d ∈ own.filterMap domain) : cStr targetDomain ≠ "" ∧ d = cStr targetDomain := by
  obtain ⟨handling, member, accepts⟩ := List.mem_filterMap.mp found
  cases handling with
  | routeRequest d' =>
      obtain rfl := inForce d' member
      change (if cStr d' = "" then none else some (cStr d')) = some d at accepts
      split at accepts
      · cases accepts
      · rename_i filled
        exact ⟨filled, (Option.some.inj accepts).symm⟩
  | inboundRequest => cases accepts
  | outboundRequest => cases accepts
  | outboundResponse => cases accepts

theorem keepsUris_unrouted {own : List Handling} (none : own.filterMap domain = []) (m : Message) :
    KeepsUris m (m.settled own) := by
  have same (hostPort : String) : settledHostPort own hostPort = hostPort := by
    rw [settledHostPort, none]
    rfl
  refine ⟨?_, ?_, ?_⟩
  · simp only [settled, none, same, if_true]
  · simp only [settled, same]
  · simp only [settled, same]

theorem sentTo_routed (inForce : ∀ d, .routeRequest d ∈ own → d = targetDomain)
    (filled : cStr targetDomain ≠ "") (routed : .routeRequest targetDomain ∈ own) (m : Message) :
    SentTo (cStr targetDomain) m (m.settled own) := by
  have accepted : own.filterMap domain ≠ [] :=
    List.ne_nil_of_mem (List.mem_filterMap.mpr ⟨_, routed, if_neg filled⟩)
  have sent := settledHostPort_eq accepted fun d found => (domain_inForce inForce found).2
  refine ⟨?_, ?_, ?_⟩
  · simp only [settled, sent, if_neg accepted]
  · simp only [settled, sent]
  · simp only [settled, sent]

theorem routeAction_routed (inForce : ∀ d, .routeRequest d ∈ own → d = targetDomain)
    (routed : .routeRequest targetDomain ∈ own) (m : Message) :
    (m.settled own).properties "route-action" =
      some (if cStr targetDomain = "" then "reject" else "continue") := by
  change (lastValue (own.flatMap sets) "route-action").or _ = _
  cases last : lastValue (own.flatMap sets) "route-action" with
  | none =>
      have decision := List.mem_flatMap_of_mem routed (mem_sets_routeAction.mpr ⟨_, rfl, rfl⟩)
      exact absurd rfl (lastValue_eq_none_iff.mp last _ decision)
  | some value =>
      obtain ⟨handling, member, set⟩ := List.mem_flatMap.mp (mem_of_lastValue last)
      obtain ⟨d, rfl, rfl⟩ := mem_sets_routeAction.mp set
      rw [inForce d member]
      rfl

/-- What is written down of a message whose routings all have one domain. -/
theorem settled_handledFor (inForce : ∀ d, .routeRequest d ∈ own → d = targetDomain)
    (m : Message) : HandledFor (cStr targetDomain) own m (m.settled own) := by
  refine ⟨?_, ?_, ?_⟩
  · intro filled routed
    obtain ⟨d, member⟩ := routed
    obtain rfl := inForce d member
    have action := routeAction_routed inForce member m
    rw [if_neg filled] at action
    exact ⟨sentTo_routed inForce filled member m, action⟩
  · intro unset routed
    obtain ⟨d, member⟩ := routed
    obtain rfl := inForce d member
    have action := routeAction_routed inForce member m
    rw [if_pos unset] at action
    have none : own.filterMap domain = [] := by
      rw [List.eq_nil_iff_forall_not_mem]
      exact fun d' found => (domain_inForce inForce found).1 unset
    exact ⟨keepsUris_unrouted none m, action⟩
  · intro never
    have unaccepted : own.filterMap domain = [] := by
      rw [List.filterMap_eq_nil_iff]
      intro handling member
      cases handling with
      | routeRequest d => exact absurd member (never d)
      | inboundRequest => rfl
      | outboundRequest => rfl
      | outboundResponse => rfl
    have undecided : lastValue (own.flatMap sets) "route-action" = none := by
      rw [lastValue_eq_none_iff]
      intro set mem under
      obtain ⟨handling, member, found⟩ := List.mem_flatMap.mp mem
      obtain ⟨name, value⟩ := set
      subst under
      obtain ⟨d, rfl, -⟩ := mem_sets_routeAction.mp found
      exact never d member
    refine ⟨keepsUris_unrouted unaccepted m, ?_⟩
    change (lastValue (own.flatMap sets) "route-action").or _ = _
    rw [undecided, Option.none_or]

end InForce

end Message

/-! ## Runs -/

section Run

open Handling

variable {host : SipHost T}

/-- A handling changes its own message, and no transaction. -/
theorem perform_handling (reads : host.Reads) (setters : host.SettersSucceed) (i : Nat)
    (handling : Handling) (w : World T RouteScript) :
    ∃ w', handling.perform host i w = .ok () w' ∧ w'.transactions = w.transactions ∧
      w'.messages = Function.update w.messages i (handling.effect (w.messages i)) := by
  cases handling with
  | inboundRequest => exact ⟨w, rfl, rfl, (Function.update_eq_self ..).symm⟩
  | outboundResponse => exact ⟨w, rfl, rfl, (Function.update_eq_self ..).symm⟩
  | outboundRequest => exact ⟨_, outbound_handleRequest_eq reads i w, rfl, rfl⟩
  | routeRequest targetDomain =>
      exact ⟨_, handleRequest_eq reads setters i { w with defaultTargetDomain := targetDomain },
        rfl, rfl⟩

/-- Handlings change each message by the effects of its own, one after another. -/
theorem performAll_effects (reads : host.Reads) (setters : host.SettersSucceed)
    (handlings : List (Nat × Handling)) (w : World T RouteScript) :
    ∃ w', Handling.performAll host handlings w = .ok () w' ∧
      w'.transactions = w.transactions ∧
      ∀ i, w'.messages i =
        (own i handlings).foldl (fun m handling => handling.effect m) (w.messages i) := by
  induction handlings generalizing w with
  | nil => exact ⟨w, rfl, rfl, fun _ => rfl⟩
  | cons handling handlings ih =>
      obtain ⟨j, handling⟩ := handling
      obtain ⟨w₁, performed, transactions, messages⟩ := perform_handling reads setters j handling w
      obtain ⟨w', run, transactions', messages'⟩ := ih w₁
      refine ⟨w', and_then performed run, transactions'.trans transactions, ?_⟩
      intro i
      rw [messages' i, messages]
      by_cases here : j = i
      · subst here
        simp [own]
      · rw [Function.update_of_ne (Ne.symm here)]
        simp [own, here]

/-- **Handlers do not interfere.** However the handlers of many messages follow one another, every
message becomes what is written down from its own handlings, and no transaction changes. -/
theorem handlers_settle (reads : host.Reads) (setters : host.SettersSucceed)
    (handlings : List (Nat × Handling)) (w : World T RouteScript) :
    ∃ w', Handling.performAll host handlings w = .ok () w' ∧
      w'.transactions = w.transactions ∧
      ∀ i, w'.messages i = (w.messages i).settled (own i handlings) := by
  obtain ⟨w', performed, transactions, messages⟩ :=
    performAll_effects reads setters handlings w
  refine ⟨w', performed, transactions, ?_⟩
  intro i
  rw [messages i, Message.foldl_effect]

end Run

/-- Two requests pass the handlers at once; the first is routed twice, the second is rejected. -/
theorem handlers_settle_two :
    ∃ w', Handling.performAll memoryHost
        [(0, .inboundRequest), (1, .inboundRequest), (0, .routeRequest "a.com"),
          (1, .routeRequest ""), (0, .outboundRequest), (0, .routeRequest "b.com"),
          (1, .outboundRequest)] referWorld = .ok () w' ∧
      (w'.messages 0).requestUri = ⟨some "alice", "b.com"⟩ ∧
      (w'.messages 1).requestUri = ⟨none, "192.168.1.10"⟩ ∧
      (w'.messages 1).properties "route-action" = some "reject" := by
  obtain ⟨w', run, -, messages⟩ := handlers_settle memoryHost_reads memoryHost_settersSucceed
    [(0, .inboundRequest), (1, .inboundRequest), (0, .routeRequest "a.com"),
      (1, .routeRequest ""), (0, .outboundRequest), (0, .routeRequest "b.com"),
      (1, .outboundRequest)] referWorld
  refine ⟨w', run, ?_⟩
  rw [messages 0, messages 1]
  decide

end SipXsbc
