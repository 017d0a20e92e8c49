import SipXsbc.Script.RouteProfile

/-!
# Route flags and control properties

A script flags routes under aliases of its choice, and `RouteProfile` switches the
B2BUA through properties with fixed names. Both are kept as properties of the
transaction, so an alias is a flag of its own only as long as no switch has its name.
-/

namespace SipXsbc

open Keyed RouteProfile

variable {T : Type}

/-! ## Calls -/

/-- A call that sets flags or controls. -/
inductive RouteCall
  | flagRoute (routeAlias : JsVal)
  | allowFailover
  | disallowFailover
  | invokeLocalHandler
  | allowRTPProxy
  | disallowRTPProxy
  | enableVerboseRTP
  | disbleVerboseRTP
  | handleLocalReg (a1 realm expires : JsVal)
  deriving DecidableEq

namespace RouteCall

def perform (host : SipHost T) (this : RouteObject) : RouteCall → Js T RouteScript Unit
  | flagRoute routeAlias => RouteProfile.flagRoute host this routeAlias
  | allowFailover => RouteProfile.allowFailover host this
  | disallowFailover => RouteProfile.disallowFailover host this
  | invokeLocalHandler => RouteProfile.invokeLocalHandler host this
  | allowRTPProxy => RouteProfile.allowRTPProxy host this
  | disallowRTPProxy => RouteProfile.disallowRTPProxy host this
  | enableVerboseRTP => RouteProfile.enableVerboseRTP host this
  | disbleVerboseRTP => RouteProfile.disbleVerboseRTP host this
  | handleLocalReg a1 realm expires => RouteProfile.handleLocalReg host this a1 realm expires

/-- The properties that a call sets on the transaction of a message. -/
def assigns (m : Message) : RouteCall → List (String × String)
  | flagRoute routeAlias => (SBController.assignment routeAlias (.str "1")).toList
  | allowFailover => [("allow-failover", "1")]
  | disallowFailover => [("allow-failover", "0")]
  | invokeLocalHandler => [("invoke-local-handler", "1")]
  | allowRTPProxy => [("no-rtp-proxy", "0")]
  | disallowRTPProxy => [("no-rtp-proxy", "1")]
  | enableVerboseRTP => [("enable-verbose-rtp", "1")]
  | disbleVerboseRTP => [("enable-verbose-rtp", "0")]
  | handleLocalReg a1 realm expires => localReg a1 realm expires m

def isFlag : RouteCall → Bool
  | flagRoute _ => true
  | _ => false

/-- A flag under another name. -/
def flagsOther (name : String) : RouteCall → Bool
  | flagRoute routeAlias => routeAlias != .str name
  | _ => false

theorem perform_bound {host : SipHost T} (reads : host.IsRequestReads)
    (exact : host.IsRequestExact) {this : RouteObject} {i : Nat} {w : World T RouteScript}
    (bound : w.script this = some ⟨.handle i⟩) (call : RouteCall) :
    call.perform host this w = .ok () (w.assignProperties host i (call.assigns (w.messages i))) := by
  have sets (name value : JsVal) :
      (do (← sipMessage this).setTransactionProperty host name value) w =
        .ok () (w.assignProperties host i (SBController.assignment name value).toList) :=
    and_then (sipMessage_bound bound) (setTransactionProperty_assigns w name value)
  cases call with
  | flagRoute routeAlias => exact sets routeAlias (.str "1")
  | handleLocalReg a1 realm expires => exact handleLocalReg_bound reads exact bound a1 realm expires
  | allowFailover => exact sets (.str "allow-failover") (.str "1")
  | disallowFailover => exact sets (.str "allow-failover") (.str "0")
  | invokeLocalHandler => exact sets (.str "invoke-local-handler") (.str "1")
  | allowRTPProxy => exact sets (.str "no-rtp-proxy") (.str "0")
  | disallowRTPProxy => exact sets (.str "no-rtp-proxy") (.str "1")
  | enableVerboseRTP => exact sets (.str "enable-verbose-rtp") (.str "1")
  | disbleVerboseRTP => exact sets (.str "enable-verbose-rtp") (.str "0")

end RouteCall

/-- A call on one of the objects, bound to a message for it. -/
structure RouteStep where
  object : RouteObject
  message : Nat
  call : RouteCall
  deriving DecidableEq

namespace RouteStep

/-- Calls one after another. -/
def performAll (host : SipHost T) : List RouteStep → Js T RouteScript Unit
  | [] => return ()
  | step :: steps => do
      setRequest step.object (.handle step.message)
      step.call.perform host step.object
      performAll host steps

/-- The properties that a step sets. -/
def assigns (messages : Nat → Message) (step : RouteStep) : List (String × String) :=
  step.call.assigns (messages step.message)

/-- All steps are on messages of one transaction. -/
def OnTransaction (messages : Nat → Message) (k : Nat) (steps : List RouteStep) : Prop :=
  ∀ step ∈ steps, (messages step.message).userData = some k

section Run

variable {host : SipHost T} {k : Nat}

/-- A run gives the transaction the properties of all its steps, in order. -/
theorem performAll_eq (reads : host.IsRequestReads) (exact : host.IsRequestExact)
    {steps : List RouteStep} (w : World T RouteScript) (shared : OnTransaction w.messages k steps) :
    ∃ w', performAll host steps w = .ok () w' ∧ w'.messages = w.messages ∧
      w'.transactions k =
        assignAll host.setProperty (w.transactions k) (steps.flatMap (assigns w.messages)) := by
  induction steps generalizing w with
  | nil => exact ⟨w, rfl, rfl, rfl⟩
  | cons step steps ih =>
      obtain ⟨first, rest⟩ := List.forall_mem_cons.mp shared
      have performed := RouteCall.perform_bound reads exact
        (w.rebound_bound step.object step.message) step.call
      obtain ⟨w', run, messages, transaction⟩ :=
        ih ((w.rebound step.object step.message).assignProperties host step.message
          (step.assigns w.messages)) (by rw [World.assignProperties_messages]; exact rest)
      refine ⟨w', ?_, messages.trans (World.assignProperties_messages _ _), ?_⟩
      · unfold performAll
        exact and_then (setRequest_eq w) (and_then performed run)
      · rw [transaction, World.assignProperties_messages,
          World.assignProperties_of_some (w.rebound step.object step.message) first,
          World.onTransaction_transactions_self]
        unfold assignAll
        rw [List.flatMap_cons, List.foldl_append]
        rfl

/-- Leaving steps out that set nothing under a name does not change what it reads. -/
theorem readings_agree (map : host.StringMap) (messages : Nat → Message) (t : T) (name : String)
    {keep : RouteStep → Bool} {steps steps' : List RouteStep}
    (dropped : ∀ step ∈ steps ++ steps', keep step = false →
      ∀ a ∈ step.assigns messages, a.1 ≠ name)
    (same : steps.filter keep = steps'.filter keep) :
    host.getProperty (assignAll host.setProperty t (steps.flatMap (assigns messages))) name =
      host.getProperty (assignAll host.setProperty t (steps'.flatMap (assigns messages))) name := by
  rw [map.get_assignAll, map.get_assignAll]
  congr 1
  rw [← lastValue_flatMap_filter fun step mem => dropped step (List.mem_append_left _ mem), same]
  exact lastValue_flatMap_filter fun step mem => dropped step (List.mem_append_right _ mem)

end Run

section Aliases

variable {messages : Nat → Message} {steps : List RouteStep}

/-- Aliases are strings without NUL, or no strings. -/
def NulFreeAliases (steps : List RouteStep) : Prop :=
  ∀ step ∈ steps, ∀ routeAlias, step.call = .flagRoute routeAlias → routeAlias.NulFree

/-- What a flag sets is under its alias. -/
theorem assignment_flag {routeAlias : JsVal} (nulFree : routeAlias.NulFree) {a : String × String}
    (set : a ∈ (SBController.assignment routeAlias (.str "1")).toList) :
    routeAlias = .str a.1 ∧ a.2 = "1" := by
  have one : SBController.jsValToString (.str "1") = "1" := by decide
  unfold SBController.assignment at set
  cases routeAlias with
  | str s =>
      simp only [jsValToString_str nulFree, one] at set
      split at set
      · cases set
      · rw [Option.toList_some, List.mem_singleton] at set
        rw [set]
        exact ⟨rfl, rfl⟩
  | _ => simp [SBController.jsValToString] at set

/-- A flag that is not refused is set under its alias. -/
theorem flag_assignment {a : String} (named : a ≠ "") (nulFree : NulFree a) :
    (SBController.assignment (.str a) (.str "1")).toList = [(a, "1")] := by
  have one : SBController.jsValToString (.str "1") = "1" := by decide
  unfold SBController.assignment
  simp only [jsValToString_str nulFree, one]
  rw [if_neg (by simp [named])]
  rfl

/-- A name that only flags set is never set, or flagged by one of them. -/
theorem lastValue_flag (nulFree : NulFreeAliases steps) {a : String} (named : a ≠ "")
    (aliasNulFree : NulFree a)
    (own : ∀ step ∈ steps, step.call.isFlag = false → ∀ set ∈ step.assigns messages, set.1 ≠ a) :
    (lastValue (steps.flatMap (assigns messages)) a = none ∧
        ∀ step ∈ steps, step.call ≠ .flagRoute (.str a)) ∨
      (lastValue (steps.flatMap (assigns messages)) a = some "1" ∧
        ∃ step ∈ steps, step.call = .flagRoute (.str a)) := by
  have flags (set) (mem : set ∈ steps.flatMap (assigns messages)) (under : set.1 = a) :
      (∃ step ∈ steps, step.call = .flagRoute (.str a)) ∧ set.2 = "1" := by
    obtain ⟨step, stepMem, setMem⟩ := List.mem_flatMap.mp mem
    cases flag : step.call.isFlag with
    | false => exact absurd under (own step stepMem flag set setMem)
    | true =>
        cases call : step.call with
        | flagRoute routeAlias =>
            unfold assigns at setMem
            rw [call] at setMem
            obtain ⟨same, one⟩ := assignment_flag (nulFree step stepMem routeAlias call) setMem
            rw [under] at same
            exact ⟨⟨step, stepMem, call.trans (congrArg RouteCall.flagRoute same)⟩, one⟩
        | _ =>
            rw [call] at flag
            cases flag
  cases last : lastValue (steps.flatMap (assigns messages)) a with
  | none =>
      refine Or.inl ⟨rfl, fun step mem call => ?_⟩
      have set : (a, "1") ∈ step.assigns messages := by
        unfold assigns
        rw [call]
        change (a, "1") ∈ (SBController.assignment (.str a) (.str "1")).toList
        rw [flag_assignment named aliasNulFree]
        exact List.mem_singleton_self _
      exact absurd rfl
        (lastValue_eq_none_iff.mp last (a, "1") (List.mem_flatMap_of_mem mem set))
  | some value =>
      obtain ⟨flagged, one⟩ := flags (a, value) (mem_of_lastValue last) rfl
      exact Or.inr ⟨congrArg some one, flagged⟩

end Aliases

end RouteStep

section Flagged

variable {host : SipHost T} {this : RouteObject} {i k : Nat} {w : World T RouteScript}

theorem isRouteFlagged_bound (bound : w.script this = some ⟨.handle i⟩) (routeAlias : JsVal) :
    isRouteFlagged host this routeAlias w =
      .ok (w.transactionProperty host i routeAlias).equalsOne w := by
  unfold isRouteFlagged
  refine and_then (sipMessage_bound bound) ?_
  exact and_then (getTransactionProperty_handle host i w routeAlias) rfl

end Flagged

open RouteStep

/-- The properties that switch the B2BUA. -/
def controlProperties : List String :=
  ["allow-failover", "invoke-local-handler", "no-rtp-proxy", "enable-verbose-rtp", "auth-a1-hash",
    "auth-realm", "reg-expires"]

/-- The flag of a route as a script finds it on a message. -/
def findRouteFlagged (host : SipHost T) (this : RouteObject) (i : Nat) (routeAlias : JsVal) :
    Js T RouteScript Bool := do
  setRequest this (.handle i)
  isRouteFlagged host this routeAlias

section Readings

variable {host : SipHost T} {k : Nat} {steps : List RouteStep} {w : World T RouteScript}

/-- After steps on a transaction without properties, a route is flagged if one of them
flagged it. -/
theorem findRouteFlagged_iff (map : host.StringMap) (nulFree : NulFreeAliases steps)
    (empty : ∀ name, host.getProperty (w.transactions k) name = none) {w' : World T RouteScript}
    (assigned : w'.transactions k =
      assignAll host.setProperty (w.transactions k) (steps.flatMap (assigns w.messages)))
    {a : String} (named : a ≠ "") (aliasNulFree : NulFree a) (plain : a ≠ "log-id")
    (own : ∀ step ∈ steps, step.call.isFlag = false → ∀ set ∈ step.assigns w.messages, set.1 ≠ a)
    (this : RouteObject) {i : Nat} (transaction : (w'.messages i).userData = some k) :
    ∃ flagged, findRouteFlagged host this i (.str a) w' = .ok flagged (w'.rebound this i) ∧
      (flagged = true ↔ ∃ step ∈ steps, step.call = .flagRoute (.str a)) := by
  refine ⟨_, and_then (setRequest_eq w') (isRouteFlagged_bound (w'.rebound_bound this i) _), ?_⟩
  have after : ((w'.rebound this i).messages i).userData = some k := transaction
  have value : host.getProperty ((w'.rebound this i).transactions k) a =
      lastValue (steps.flatMap (assigns w.messages)) a := by
    change host.getProperty (w'.transactions k) a = _
    rw [assigned, map.get_assignAll, empty, Option.or_none]
  rw [World.transactionProperty_str _ after aliasNulFree named plain, value]
  rcases lastValue_flag nulFree named aliasNulFree own with ⟨last, never⟩ | ⟨last, flagged⟩
  · rw [last]
    have unflagged : ¬ ∃ step ∈ steps, step.call = .flagRoute (.str a) := by
      intro given
      rcases given with ⟨step, mem, call⟩
      exact never step mem call
    exact iff_of_false (by decide) unflagged
  · rw [last]
    exact iff_of_true (by decide) flagged

/-- Flags under other names make no difference to what is set under a name. -/
theorem flagsOther_assigns {step : RouteStep}
    (nulFree : ∀ routeAlias, step.call = .flagRoute routeAlias → routeAlias.NulFree) {name : String}
    (other : step.call.flagsOther name = true) {messages : Nat → Message} :
    ∀ set ∈ step.assigns messages, set.1 ≠ name := by
  intro set mem under
  cases call : step.call with
  | flagRoute routeAlias =>
      unfold RouteStep.assigns at mem
      rw [call] at mem
      obtain ⟨same, -⟩ := assignment_flag (nulFree routeAlias call) mem
      rw [call, same, under] at other
      simp [RouteCall.flagsOther] at other
  | _ =>
      rw [call] at other
      cases other

/-- A control reads the same after steps that differ in flags under other names only. -/
theorem control_agrees (map : host.StringMap) {steps' : List RouteStep}
    (nulFree : NulFreeAliases steps) (nulFree' : NulFreeAliases steps') {control : String}
    (same : (steps.filter fun step => !step.call.flagsOther control) =
      steps'.filter fun step => !step.call.flagsOther control) (messages : Nat → Message) (t : T) :
    host.getProperty (assignAll host.setProperty t (steps.flatMap (assigns messages))) control =
      host.getProperty (assignAll host.setProperty t (steps'.flatMap (assigns messages))) control := by
  apply readings_agree map messages t control _ same
  intro step mem dropped
  have other : step.call.flagsOther control = true := by simpa using dropped
  rcases List.mem_append.mp mem with here | there
  · exact flagsOther_assigns (nulFree step here) other
  · exact flagsOther_assigns (nulFree' step there) other

end Readings

/-- On a transaction without properties, a route is flagged after any steps exactly if
one of them flagged it under its alias, which is not reserved and which no control sets
in them. What a control reads does not depend on flags under other names. -/
theorem route_flags_independent {host : SipHost T} (map : host.StringMap)
    (reads : host.IsRequestReads) (exact : host.IsRequestExact) {k : Nat} {steps : List RouteStep}
    {w : World T RouteScript} (shared : OnTransaction w.messages k steps)
    (nulFree : NulFreeAliases steps)
    (empty : ∀ name, host.getProperty (w.transactions k) name = none) :
    ∃ w', performAll host steps w = .ok () w' ∧
      (∀ (a : String) (this : RouteObject) (i : Nat), a ≠ "" → NulFree a → a ≠ "log-id" →
        (w.messages i).userData = some k →
        (∀ step ∈ steps, step.call.isFlag = false →
          ∀ set ∈ step.assigns w.messages, set.1 ≠ a) →
        ∃ flagged, findRouteFlagged host this i (.str a) w' = .ok flagged (w'.rebound this i) ∧
          (flagged = true ↔ ∃ step ∈ steps, step.call = .flagRoute (.str a))) ∧
      ∀ control ∈ controlProperties, ∀ (steps' : List RouteStep) (i : Nat),
        OnTransaction w.messages k steps' → NulFreeAliases steps' →
        (w.messages i).userData = some k →
        (steps.filter fun step => !step.call.flagsOther control) =
          (steps'.filter fun step => !step.call.flagsOther control) →
        ∃ w'', performAll host steps' w = .ok () w'' ∧
          w''.transactionProperty host i (.str control) =
            w'.transactionProperty host i (.str control) := by
  obtain ⟨w', run, messages, assigned⟩ := performAll_eq reads exact w shared
  refine ⟨w', run, ?_, ?_⟩
  · intro a this i named aliasNulFree plain transaction own
    rw [← messages] at transaction
    exact findRouteFlagged_iff map nulFree empty assigned named aliasNulFree plain own this
      transaction
  · intro control mem steps' i shared' nulFree' transaction same
    obtain ⟨w'', run', messages', assigned'⟩ := performAll_eq reads exact w shared'
    refine ⟨w'', run', ?_⟩
    have names : NulFree control ∧ control ≠ "" ∧ control ≠ "log-id" := by
      unfold controlProperties at mem
      simp only [List.mem_cons, List.not_mem_nil, or_false] at mem
      rcases mem with rfl | rfl | rfl | rfl | rfl | rfl | rfl <;> decide
    obtain ⟨controlNulFree, named, plain⟩ := names
    rw [World.transactionProperty_str w'' (messages' ▸ transaction) controlNulFree named plain,
      World.transactionProperty_str w' (messages ▸ transaction) controlNulFree named plain, assigned,
      assigned', control_agrees map nulFree nulFree' same]

/-- A gateway that was tried is flagged while failover is switched on. -/
theorem route_flags_gateway :
    ∃ w', performAll memoryHost
        [⟨.route, 0, .allowFailover⟩, ⟨.route404, 1, .flagRoute (.str "gateway")⟩] registerWorld =
          .ok () w' ∧
      ∃ flagged, findRouteFlagged memoryHost .route 2 (.str "gateway") w' =
          .ok flagged (w'.rebound .route 2) ∧ flagged = true := by
  have steps {P : RouteStep → Prop} (failover : P ⟨.route, 0, .allowFailover⟩)
      (flag : P ⟨.route404, 1, .flagRoute (.str "gateway")⟩) :
      ∀ step ∈ [(⟨.route, 0, .allowFailover⟩ : RouteStep),
        ⟨.route404, 1, .flagRoute (.str "gateway")⟩], P step := by
    intro step mem
    rcases List.mem_pair.mp mem with rfl | rfl
    · exact failover
    · exact flag
  have nulFree : NulFreeAliases [⟨.route, 0, .allowFailover⟩,
      ⟨.route404, 1, .flagRoute (.str "gateway")⟩] := by
    apply steps
    · intro routeAlias call
      cases call
    · intro routeAlias call
      cases call
      decide
  obtain ⟨w', run, flags, -⟩ := route_flags_independent memoryHost_stringMap
    memoryHost_isRequestReads memoryHost_isRequestExact (w := registerWorld) (k := 0)
    (fun _ _ => rfl) nulFree fun _ => rfl
  obtain ⟨flagged, found, iff⟩ := flags "gateway" .route 2 (by decide) (by decide) (by decide) rfl
    (steps (fun _ set mem => by
      rw [List.mem_singleton.mp mem]
      decide) fun flag => absurd flag (by decide))
  exact ⟨w', run, flagged, found,
    iff.mpr ⟨⟨.route404, 1, .flagRoute (.str "gateway")⟩, by simp, rfl⟩⟩

/-- Switching failover on flags a route under that name, and a flag under the name of a
switch switches it. A flag under the reserved name is not found again, and one whose alias has
a NUL is found under what stands before it. -/
theorem route_flags_share_names :
    (∃ w', performAll memoryHost [⟨.route, 0, .allowFailover⟩] registerWorld = .ok () w' ∧
      findRouteFlagged memoryHost .route 0 (.str "allow-failover") w' =
        .ok true (w'.rebound .route 0)) ∧
      (∃ w', performAll memoryHost [⟨.route, 0, .flagRoute (.str "invoke-local-handler")⟩]
          registerWorld = .ok () w' ∧
        w'.transactionProperty memoryHost 0 (.str "invoke-local-handler") ≠
          registerWorld.transactionProperty memoryHost 0 (.str "invoke-local-handler")) ∧
      (∃ w', performAll memoryHost [⟨.route, 0, .flagRoute (.str "log-id")⟩] registerWorld =
          .ok () w' ∧
        findRouteFlagged memoryHost .route 0 (.str "log-id") w' =
          .ok false (w'.rebound .route 0)) ∧
      ∃ w', performAll memoryHost [⟨.route, 0, .flagRoute (.str "gateway\x00backup")⟩]
          registerWorld = .ok () w' ∧
        findRouteFlagged memoryHost .route 0 (.str "gateway") w' =
          .ok true (w'.rebound .route 0) := by
  refine ⟨⟨_, rfl, rfl⟩, ⟨_, rfl, by decide⟩, ⟨_, rfl, rfl⟩, _, rfl, rfl⟩

end SipXsbc
