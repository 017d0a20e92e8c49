import SipXsbc.Script.RouteRequest

/-!
# Routing when a host-port cannot be set

The setters of host-ports report whether they succeed. Their wrappers in
`SIPMessage` drop the answer, so `setTargetDomain` cannot tell and the request is
accepted all the same: its host-ports are the target domain where the setter
succeeds or nothing had to be changed.
-/

namespace SipXsbc

variable {T : Type}

/-- The setters of host-ports answer whether they did what they should. -/
structure SipHost.SettersReport (host : SipHost T) (fails : HostPart → Bool) : Prop extends
    host.SettersExcept fails where
  result : ∀ part hostPort m, hostPort ≠ "" →
    (host.call part.setter [.str hostPort] m).1 = .bool !fails part

namespace Message

/-- A request that was handled for the domain `d` is rewritten in all three parts, or
rejected. -/
def NotHalfRewritten (d : String) (m m' : Message) : Prop :=
  (m'.properties "route-action" = some "continue" → ∀ part : HostPart, part.hostPort m' = d) ∧
    (m'.properties "route-action" ≠ some "continue" → m.Rejected m')

theorem hostPort_trySetHostPort (fails : HostPart → Bool) (part part' : HostPart) (d : String)
    (m : Message) :
    part'.hostPort (m.trySetHostPort fails part d) =
      if part' = part ∧ fails part = false then d else part'.hostPort m := by
  unfold trySetHostPort
  cases fails part with
  | true => simp
  | false => cases part <;> cases part' <;> rfl

/-- Each host-port is the target domain, or as it was where its setter fails. -/
theorem hostPort_routedExcept (fails : HostPart → Bool) {d : String} (filled : d ≠ "")
    (m : Message) (part : HostPart) :
    part.hostPort (m.routedExcept fails d) = if fails part then part.hostPort m else d := by
  have rest : part.hostPort (m.routedExcept fails d) =
      part.hostPort (((m.trySetHostPort fails .requestUri d).trySetHostPort fails .fromUri
        d).trySetHostPort fails .toUri d) := by
    unfold routedExcept
    rw [if_neg filled]
    cases part <;> rfl
  rw [rest]
  simp only [hostPort_trySetHostPort]
  cases part with
  | requestUri => cases fails .requestUri <;> simp
  | fromUri => cases fails .fromUri <;> simp
  | toUri => cases fails .toUri <;> simp

/-- With a target domain the request is accepted, whatever fails. -/
theorem routeAction_routedExcept (fails : HostPart → Bool) {d : String} (filled : d ≠ "")
    (m : Message) : (m.routedExcept fails d).properties "route-action" = some "continue" := by
  unfold routedExcept
  rw [if_neg filled]
  rfl

theorem notHalfRewritten_iff (fails : HostPart → Bool) {d : String} (filled : d ≠ "")
    (m : Message) :
    m.NotHalfRewritten d (m.routedExcept fails d) ↔
      ∀ part : HostPart, fails part = false ∨ part.hostPort m = d := by
  have accepted := routeAction_routedExcept fails filled m
  unfold NotHalfRewritten
  simp only [accepted, hostPort_routedExcept fails filled, forall_const, ne_eq, not_true,
    false_imp_iff, and_true]
  apply forall_congr'
  intro part
  cases fails part with
  | true => simp
  | false => simp

end Message

/-- Handling a request leaves it rewritten in all three parts or rejected exactly when
each setter of a host-port succeeds or has nothing to change. -/
theorem no_half_rewritten_request_iff {host : SipHost T} (reads : host.Reads)
    {fails : HostPart → Bool} (setters : host.SettersReport fails) (i : Nat)
    (w : World T RouteScript) (filled : cStr w.defaultTargetDomain ≠ "") :
    ∃ w', RouteRequest.handleRequest host (.handle i) w = .ok () w' ∧
      ((w.messages i).NotHalfRewritten (cStr w.defaultTargetDomain) (w'.messages i) ↔
        ∀ part : HostPart,
          fails part = false ∨ part.hostPort (w.messages i) = cStr w.defaultTargetDomain) := by
  refine ⟨_, handleRequest_except reads setters.toSettersExcept i w, ?_⟩
  rw [World.onMessage_messages_self]
  exact Message.notHalfRewritten_iff fails filled (w.messages i)

/-- The host in memory, where some setters of host-ports fail. -/
def failingHost (fails : HostPart → Bool) : SipHost MemoryTransaction :=
  { memoryHost with
    call := fun fn args m =>
      match fn with
      | .msgSetRequestUriHostPort =>
          if fails .requestUri then (.bool false, m) else memoryCall fn args m
      | .msgSetFromHostPort => if fails .fromUri then (.bool false, m) else memoryCall fn args m
      | .msgSetToHostPort => if fails .toUri then (.bool false, m) else memoryCall fn args m
      | _ => memoryCall fn args m }

theorem failingHost_reads (fails : HostPart → Bool) : (failingHost fails).Reads :=
  ⟨memoryHost_isRequestReads, memoryHost_isRequestExact, fun _ => rfl, fun _ => rfl,
    fun _ _ _ => rfl⟩

theorem failingHost_setHostPort (fails : HostPart → Bool) (part : HostPart) (hostPort : String)
    (m : Message) :
    (failingHost fails).call part.setter [.str hostPort] m =
      (.bool !fails part, m.trySetHostPort fails part hostPort) := by
  unfold Message.trySetHostPort
  cases failing : fails part with
  | true => cases part <;> simp [failingHost, HostPart.setter, failing]
  | false =>
      cases part <;>
        simp [failingHost, HostPart.setter, HostPart.setHostPort, memoryCall, failing]

theorem failingHost_settersReport (fails : HostPart → Bool) :
    (failingHost fails).SettersReport fails where
  setProperty := memoryHost_setsProperties
  setRequestUriUser _ _ _ := rfl
  setHostPort part hostPort m _ := congrArg Prod.snd (failingHost_setHostPort fails part hostPort m)
  result part hostPort m _ := congrArg Prod.fst (failingHost_setHostPort fails part hostPort m)

/-- The From URI of a request cannot be changed, and is that of the target domain
already. -/
theorem no_half_rewritten_request_kept :
    ∃ w', RouteRequest.handleRequest (failingHost (· = .fromUri)) (.handle 0)
        { referWorld with defaultTargetDomain := "192.168.1.20" } = .ok () w' ∧
      (referWorld.messages 0).NotHalfRewritten "192.168.1.20" (w'.messages 0) := by
  obtain ⟨w', run, whole⟩ := no_half_rewritten_request_iff (failingHost_reads (· = .fromUri))
    (failingHost_settersReport (· = .fromUri)) 0
    { referWorld with defaultTargetDomain := "192.168.1.20" } (by decide)
  refine ⟨w', run, whole.mpr ?_⟩
  intro part
  cases part <;> decide

/-- The From URI of a request cannot be changed, and the request is accepted with its
old host-port. -/
theorem half_rewritten_request_accepted :
    ∃ w', RouteRequest.handleRequest (failingHost (· = .fromUri)) (.handle 0)
        { referWorld with defaultTargetDomain := "example.com" } = .ok () w' ∧
      ¬ (referWorld.messages 0).NotHalfRewritten "example.com" (w'.messages 0) := by
  refine ⟨_, handleRequest_except (failingHost_reads (· = .fromUri))
    (failingHost_settersReport (· = .fromUri)).toSettersExcept 0
    { referWorld with defaultTargetDomain := "example.com" }, ?_⟩
  rw [World.onMessage_messages_self]
  intro whole
  have same := whole.1 (by decide) .fromUri
  exact absurd same (by decide)

end SipXsbc
