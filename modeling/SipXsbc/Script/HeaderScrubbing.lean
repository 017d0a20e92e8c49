import SipXsbc.Script.RouteRequest

/-!
# Two handlers that remove headers

`outboundRequest.js` removes Accept-Language and Remote-Party-Id from every request
that leaves. `isRoutable` removes the same two from a request it routes, but spells
the first one Accept-Laguage.
-/

namespace SipXsbc

variable {T S : Type}

/-- Two selections from a list are the same if and only if they agree on its
elements. -/
theorem filter_eq_filter_iff {α : Type} {p q : α → Bool} {xs : List α} :
    xs.filter p = xs.filter q ↔ ∀ x ∈ xs, p x = q x := by
  refine ⟨?_, List.filter_congr⟩
  intro same x mem
  have member : x ∈ xs.filter p ↔ x ∈ xs.filter q := by rw [same]
  rw [List.mem_filter, List.mem_filter, and_iff_right mem, and_iff_right mem] at member
  exact Bool.eq_iff_iff.mpr member

namespace OutboundRequest

def handleRequest (host : SipHost T) (request : JsVal) : Js T S Unit := do
  let sipMessage : SIPMessage := ⟨request⟩
  sipMessage.hdrRemove host (.str "Accept-Language")
  sipMessage.hdrRemove host (.str "Remote-Party-Id")

end OutboundRequest

namespace Message

/-- The names of the headers that the outbound handler removes. -/
def scrubbedNames : List String := ["accept-language", "remote-party-id"]

/-- The request without the headers that the outbound handler removes. -/
def scrubbed (m : Message) : Message :=
  { m with headers := m.headers.filter fun h => toLower h.1 ∉ scrubbedNames }

/-- What a request must be like after it was routed, and then handled on its way
out. -/
structure ScrubbingAgrees (m m' m'' : Message) : Prop where
  removed : ∀ h ∈ m'.headers, toLower h.1 ∉ scrubbedNames
  kept : m'.headers = m.headers.filter fun h => toLower h.1 ∉ scrubbedNames
  nothingFurther : m'' = m'

/-- Both handlers remove the same headers exactly when there are none of a language, in
either spelling. -/
theorem keptHeaders_eq_scrubbed_iff (m : Message) :
    keptHeaders m.headers = m.scrubbed.headers ↔
      ∀ h ∈ m.headers, toLower h.1 ≠ "accept-language" ∧ toLower h.1 ≠ "accept-laguage" := by
  rw [keptHeaders_eq]
  unfold scrubbed scrubbedNames
  rw [filter_eq_filter_iff]
  apply forall₂_congr
  intro h _
  rw [Bool.eq_iff_iff]
  simp only [decide_eq_true_eq, List.mem_pair]
  by_cases language : toLower h.1 = "accept-language"
  case pos => simp [language]
  by_cases laguage : toLower h.1 = "accept-laguage"
  case pos => simp [laguage]
  simp [language, laguage]

/-- An accepted request comes out right exactly when the two handlers agree on its
headers. -/
theorem scrubbingAgrees_iff {m m' : Message} (headers : m'.headers = keptHeaders m.headers) :
    ScrubbingAgrees m m' m'.scrubbed ↔ keptHeaders m.headers = m.scrubbed.headers := by
  refine ⟨fun agrees => headers.symm.trans agrees.kept, ?_⟩
  intro same
  have kept : m'.headers = m.headers.filter fun h => toLower h.1 ∉ scrubbedNames :=
    headers.trans same
  have removed : ∀ h ∈ m'.headers, toLower h.1 ∉ scrubbedNames := by
    intro h mem
    rw [kept] at mem
    simpa using (List.mem_filter.mp mem).2
  refine ⟨removed, kept, ?_⟩
  unfold scrubbed
  rw [List.filter_eq_self.mpr]
  intro h mem
  simpa using removed h mem

theorem routedExcept_scrubbingAgrees_iff (fails : HostPart → Bool) (d : String) (m : Message) :
    ((m.routedExcept fails d).properties "route-action" = some "continue" →
        m.ScrubbingAgrees (m.routedExcept fails d) (m.routedExcept fails d).scrubbed) ↔
      d = "" ∨
        ∀ h ∈ m.headers, toLower h.1 ≠ "accept-language" ∧ toLower h.1 ≠ "accept-laguage" := by
  unfold routedExcept
  by_cases unset : d = ""
  case pos =>
    simp only [unset, true_or, iff_true]
    intro accepted
    exact absurd accepted (by simp [rejected, setProperty])
  case neg =>
    have headers : ((m.rewrittenExcept fails d).accepted).headers = keptHeaders m.headers :=
      rewrittenExcept_headers fails d m
    simp only [unset, false_or]
    rw [← keptHeaders_eq_scrubbed_iff, ← scrubbingAgrees_iff headers]
    exact ⟨fun agrees => agrees rfl, fun agrees _ => agrees⟩

end Message

/-- The outbound handler does to a message what `scrubbed` says. -/
theorem outbound_handleRequest_eq {host : SipHost T} (reads : host.Reads) (i : Nat)
    (w : World T S) :
    OutboundRequest.handleRequest host (.handle i) w = .ok () (w.onMessage i Message.scrubbed) := by
  have names : [toLower "Accept-Language", toLower "Remote-Party-Id"] = Message.scrubbedNames := by
    decide
  unfold OutboundRequest.handleRequest
  refine and_then (hdrRemove_handle reads (by decide) w) ?_
  rw [hdrRemove_handle reads (by decide), World.onMessage_onMessage]
  refine congrArg (EStateM.Result.ok ()) (World.onMessage_congr w i ?_)
  refine (Message.hdrRemove_hdrRemove _ _ (w.messages i)).trans ?_
  rw [names]
  rfl

/-- A request that is routed and then handled on its way out loses exactly the headers
that the outbound handler removes, and all of them when it is routed, if and only if it
is rejected or has no header that only one of the two handlers removes. -/
theorem header_scrubbing_agrees_iff {host : SipHost T} (reads : host.Reads)
    {fails : HostPart → Bool} (setters : host.SettersExcept fails) (i : Nat)
    (w : World T RouteScript) :
    ∃ w' w'', RouteRequest.handleRequest host (.handle i) w = .ok () w' ∧
      OutboundRequest.handleRequest host (.handle i) w' = .ok () w'' ∧
      (((w'.messages i).properties "route-action" = some "continue" →
          (w.messages i).ScrubbingAgrees (w'.messages i) (w''.messages i)) ↔
        cStr w.defaultTargetDomain = "" ∨
          ∀ h ∈ (w.messages i).headers,
            toLower h.1 ≠ "accept-language" ∧ toLower h.1 ≠ "accept-laguage") := by
  refine ⟨_, _, handleRequest_except reads setters i w, outbound_handleRequest_eq reads i _, ?_⟩
  simp only [World.onMessage_messages_self]
  exact Message.routedExcept_scrubbingAgrees_iff fails _ (w.messages i)

/-- A request without a header of either spelling. -/
theorem header_scrubbing_agrees_refer :
    ∃ w' w'', RouteRequest.handleRequest memoryHost (.handle 0)
        { referWorld with defaultTargetDomain := "example.com" } = .ok () w' ∧
      OutboundRequest.handleRequest memoryHost (.handle 0) w' = .ok () w'' ∧
      ((w'.messages 0).properties "route-action" = some "continue" →
        (referWorld.messages 0).ScrubbingAgrees (w'.messages 0) (w''.messages 0)) := by
  obtain ⟨w', w'', route, outbound, agrees⟩ := header_scrubbing_agrees_iff memoryHost_reads
    memoryHost_settersSucceed.except 0 { referWorld with defaultTargetDomain := "example.com" }
  refine ⟨w', w'', route, outbound, agrees.mpr (Or.inr ?_)⟩
  intro h mem
  change h ∈ [("remote-party-id", "bob"), ("Refer-To", "carol")] at mem
  rw [List.mem_pair] at mem
  rcases mem with rfl | rfl <;> decide

/-- Every message names a language that is accepted. -/
def languageWorld : World MemoryTransaction RouteScript :=
  { referWorld with
    messages := fun i => { referWorld.messages i with headers := [("Accept-Language", "en")] }
    defaultTargetDomain := "example.com" }

/-- The header is left on the routed request. -/
theorem header_scrubbing_disagrees :
    ∃ w' w'', RouteRequest.handleRequest memoryHost (.handle 0) languageWorld = .ok () w' ∧
      OutboundRequest.handleRequest memoryHost (.handle 0) w' = .ok () w'' ∧
      ¬ ((w'.messages 0).properties "route-action" = some "continue" →
        (languageWorld.messages 0).ScrubbingAgrees (w'.messages 0) (w''.messages 0)) := by
  refine ⟨_, _, handleRequest_except memoryHost_reads memoryHost_settersSucceed.except 0 _,
    outbound_handleRequest_eq memoryHost_reads 0 _, ?_⟩
  simp only [World.onMessage_messages_self]
  intro agrees
  have removed := (agrees (by decide)).removed ("Accept-Language", "en") (by decide)
  exact absurd removed (by decide)

end SipXsbc
