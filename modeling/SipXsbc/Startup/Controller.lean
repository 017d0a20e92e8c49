import SipXsbc.Basic

/-!
# Setting up the controller

`SBController.initListeners` and `SBController.initHandler`, on the part of the
controller's state that they change. The SIP stack and the script engine are
outside the repository; what their calls do is an `Environment`.
-/

namespace SipXsbc

/-- What a call throws, as far as the handlers tell it apart. -/
inductive Thrown
  | stdException
  | other
  deriving DecidableEq

structure IPAddress where
  address : String
  externalAddress : String
  port : UInt16
  deriving DecidableEq

structure ListenerInfo where
  address : String := ""
  externalAddress : String := ""
  port : UInt16 := 5060
  proto : String := ""
  deriving DecidableEq

structure ListenerConfig where
  tcpPortBase : UInt16 := 9000
  tcpPortMax : UInt16 := 30000
  listeners : List ListenerInfo := []
  deriving DecidableEq

structure HandlerConfig where
  globalScriptsDirectory : String := ""
  inboundRequestScript : String := ""
  requestAuthenticatorScript : String := ""
  routeRequestScript : String := ""
  failoverRequestScript : String := ""
  outboundRequestScript : String := ""
  outboundResponseScript : String := ""
  inboundRequestScriptHelper : String := ""
  requestAuthenticatorScriptHelper : String := ""
  routeRequestScriptHelper : String := ""
  failoverRequestScriptHelper : String := ""
  outboundRequestScriptHelper : String := ""
  outboundResponseScriptHelper : String := ""

/-- The scripts a handler configuration can name. -/
inductive ScriptKind
  | inboundRequest
  | requestAuthenticator
  | routeRequest
  | failoverRequest
  | outboundRequest
  | outboundResponse
  deriving DecidableEq

@[simp] def HandlerConfig.script (config : HandlerConfig) : ScriptKind → String
  | .inboundRequest => config.inboundRequestScript
  | .requestAuthenticator => config.requestAuthenticatorScript
  | .routeRequest => config.routeRequestScript
  | .failoverRequest => config.failoverRequestScript
  | .outboundRequest => config.outboundRequestScript
  | .outboundResponse => config.outboundResponseScript

def HandlerConfig.helper (config : HandlerConfig) : ScriptKind → String
  | .inboundRequest => config.inboundRequestScriptHelper
  | .requestAuthenticator => config.requestAuthenticatorScriptHelper
  | .routeRequest => config.routeRequestScriptHelper
  | .failoverRequest => config.failoverRequestScriptHelper
  | .outboundRequest => config.outboundRequestScriptHelper
  | .outboundResponse => config.outboundResponseScriptHelper

/-- The scripts of a configuration with their helpers, in the order of the loads. -/
def HandlerConfig.scripts (config : HandlerConfig) : List (ScriptKind × String × String) :=
  [.inboundRequest, .requestAuthenticator, .routeRequest, .failoverRequest, .outboundRequest,
    .outboundResponse].map fun kind => (kind, config.script kind, config.helper kind)

theorem HandlerConfig.mem_scripts {config : HandlerConfig} {kind : ScriptKind}
    {script helper : String} :
    (kind, script, helper) ∈ config.scripts ↔
      config.script kind = script ∧ config.helper kind = helper := by
  unfold scripts
  rw [List.mem_map]
  refine ⟨?_, ?_⟩
  · intro found
    obtain ⟨kind', _, same⟩ := found
    cases same
    exact ⟨rfl, rfl⟩
  · intro same
    obtain ⟨rfl, rfl⟩ := same
    exact ⟨kind, by cases kind <;> decide, rfl⟩

/-- The part of the SIP stack that listener set-up reads and writes. -/
structure Stack where
  enableUDP : Bool
  enableTCP : Bool
  udpListeners : List IPAddress
  tcpListeners : List IPAddress
  defaultListenerAddress : IPAddress
  tcpPortRange : UInt16 × UInt16
  deriving DecidableEq

/-- The listener is of a protocol that is enabled. -/
def Stack.adds (stack : Stack) (iter : ListenerInfo) : Bool :=
  (stack.enableUDP && toLower iter.proto == "udp") ||
    (stack.enableTCP && toLower iter.proto == "tcp")

/-- The controller during start-up, with the scripts loaded so far. -/
structure SBController where
  stack : Stack
  loaded : List (ScriptKind × String)
  defaultHandlerRegistered : Bool
  defaultTargetDomain : String
  deriving DecidableEq

/-- The calls that start-up makes outside the repository. `loadScript` is the
`load*Script` function of each kind, with the script, the directory of the
global scripts and the helper. -/
structure Environment where
  ipAddress : String → Except Thrown IPAddress
  transportInit : Except Thrown Unit
  loadScript : ScriptKind → String → String → String → Bool

/-- A step of start-up on the controller. -/
abbrev StartUp (α : Type) := EStateM Thrown SBController α

/-- Call something that may throw and leaves the controller as it is. -/
def StartUp.call {α : Type} (outcome : Except Thrown α) : StartUp α := fun sbc =>
  match outcome with
  | .ok a => .ok a sbc
  | .error thrown => .error thrown sbc

/-- A handler of `std::exception` that returns false. -/
def StartUp.caught : Thrown → StartUp Bool
  | .stdException => return false
  | .other => throw .other

/-- `try` with that handler, and `return true` after it. -/
def StartUp.trueUnlessStd (body : StartUp Unit) : StartUp Bool := fun sbc =>
  match body sbc with
  | .ok _ sbc => .ok true sbc
  | .error thrown sbc => StartUp.caught thrown sbc

namespace SBController

def addUdpListener (listener : IPAddress) (sbc : SBController) : SBController :=
  { sbc with stack := { sbc.stack with udpListeners := sbc.stack.udpListeners ++ [listener] } }

def addTcpListener (listener : IPAddress) (sbc : SBController) : SBController :=
  { sbc with stack := { sbc.stack with tcpListeners := sbc.stack.tcpListeners ++ [listener] } }

def setDefaultListenerAddress (listener : IPAddress) (sbc : SBController) : SBController :=
  { sbc with stack := { sbc.stack with defaultListenerAddress := listener } }

def setTCPPortRange (base max : UInt16) (sbc : SBController) : SBController :=
  { sbc with stack := { sbc.stack with tcpPortRange := (base, max) } }

/-- The address of one configured listener. -/
def listenerAddress (env : Environment) (iter : ListenerInfo) : StartUp IPAddress := do
  let listener ← StartUp.call (env.ipAddress iter.address)
  return { listener with externalAddress := iter.externalAddress, port := iter.port }

/-- Add one listener to a list, the UDP or the TCP one. The first that is added
becomes the default. -/
def pushListener (env : Environment) (hasDefault : Bool) (iter : ListenerInfo)
    (push : IPAddress → SBController → SBController) : StartUp Bool := do
  let listener ← listenerAddress env iter
  modify (push listener)
  if !hasDefault then
    modify (setDefaultListenerAddress listener)
  return true

/-- One round of the loop over the configured listeners; the result is whether
there is a default by now. -/
def addListener (env : Environment) (hasDefault : Bool) (iter : ListenerInfo) : StartUp Bool := do
  let proto := toLower iter.proto
  let sbc ← get
  if sbc.stack.enableUDP && proto == "udp" then
    pushListener env hasDefault iter addUdpListener
  else if sbc.stack.enableTCP && proto == "tcp" then
    pushListener env hasDefault iter addTcpListener
  else
    return hasDefault

def addListeners (env : Environment) : Bool → List ListenerInfo → StartUp Unit
  | _, [] => return ()
  | hasDefault, iter :: listeners => do
      let hasDefault ← addListener env hasDefault iter
      addListeners env hasDefault listeners

def initListeners (env : Environment) (config : ListenerConfig) : StartUp Bool :=
  StartUp.trueUnlessStd do
    addListeners env false config.listeners
    modify (setTCPPortRange config.tcpPortBase config.tcpPortMax)
    StartUp.call env.transportInit

/-- A named script is loaded; one without a name is passed over. -/
def loadScript (env : Environment) (globalScriptsDirectory : String) (kind : ScriptKind)
    (script helper : String) : StartUp Bool := do
  if !script.isEmpty && !env.loadScript kind script globalScriptsDirectory helper then
    return false
  unless script.isEmpty do
    modify fun sbc => { sbc with loaded := sbc.loaded ++ [(kind, script)] }
  return true

def registerDefaultHandler (sbc : SBController) : SBController :=
  { sbc with defaultHandlerRegistered := true }

/-- The result is missing where the function ends without a `return`. -/
def initHandler (env : Environment) (config : HandlerConfig) : StartUp (Option Bool) := do
  let load := loadScript env config.globalScriptsDirectory
  if !(← load .inboundRequest config.inboundRequestScript config.inboundRequestScriptHelper) then
    return some false
  if !(← load .requestAuthenticator config.requestAuthenticatorScript
      config.requestAuthenticatorScriptHelper) then
    return some false
  if !(← load .routeRequest config.routeRequestScript config.routeRequestScriptHelper) then
    return some false
  if !(← load .failoverRequest config.failoverRequestScript config.failoverRequestScriptHelper) then
    return some false
  if !(← load .outboundRequest config.outboundRequestScript config.outboundRequestScriptHelper) then
    return some false
  if !(← load .outboundResponse config.outboundResponseScript
      config.outboundResponseScriptHelper) then
    return some false
  modify registerDefaultHandler
  return none

/-! ## What the steps do -/

/-- What listener set-up leaves alone. -/
structure OnlyListeners (sbc sbc' : SBController) : Prop where
  enableUDP : sbc'.stack.enableUDP = sbc.stack.enableUDP
  enableTCP : sbc'.stack.enableTCP = sbc.stack.enableTCP
  tcpPortRange : sbc'.stack.tcpPortRange = sbc.stack.tcpPortRange
  loaded : sbc'.loaded = sbc.loaded
  defaultHandlerRegistered : sbc'.defaultHandlerRegistered = sbc.defaultHandlerRegistered
  defaultTargetDomain : sbc'.defaultTargetDomain = sbc.defaultTargetDomain

theorem OnlyListeners.refl (sbc : SBController) : OnlyListeners sbc sbc :=
  ⟨rfl, rfl, rfl, rfl, rfl, rfl⟩

theorem OnlyListeners.trans {sbc₁ sbc₂ sbc₃ : SBController} (first : OnlyListeners sbc₁ sbc₂)
    (second : OnlyListeners sbc₂ sbc₃) : OnlyListeners sbc₁ sbc₃ :=
  ⟨second.1.trans first.1, second.2.trans first.2, second.3.trans first.3,
    second.4.trans first.4, second.5.trans first.5, second.6.trans first.6⟩

theorem call_ok {α : Type} {outcome : Except Thrown α} {a : α} (ok : outcome = .ok a)
    (sbc : SBController) : StartUp.call outcome sbc = .ok a sbc := by
  rw [ok]
  rfl

theorem call_error {α : Type} {outcome : Except Thrown α} {thrown : Thrown}
    (error : outcome = .error thrown) (sbc : SBController) :
    StartUp.call outcome sbc = .error thrown sbc := by
  rw [error]
  rfl

theorem listenerAddress_ok {env : Environment} {iter : ListenerInfo} {ip : IPAddress}
    (built : env.ipAddress iter.address = .ok ip) (sbc : SBController) :
    listenerAddress env iter sbc =
      .ok { ip with externalAddress := iter.externalAddress, port := iter.port } sbc :=
  bind_of_ok (call_ok built sbc)

theorem listenerAddress_error {env : Environment} {iter : ListenerInfo} {thrown : Thrown}
    (fails : env.ipAddress iter.address = .error thrown) (sbc : SBController) :
    listenerAddress env iter sbc = .error thrown sbc :=
  bind_of_error (call_error fails sbc)

theorem pushListener_ok {env : Environment} {iter : ListenerInfo} {ip : IPAddress}
    (built : env.ipAddress iter.address = .ok ip) (hasDefault : Bool)
    (push : IPAddress → SBController → SBController) (sbc : SBController) :
    let listener := { ip with externalAddress := iter.externalAddress, port := iter.port }
    pushListener env hasDefault iter push sbc =
      .ok true (if hasDefault then push listener sbc
        else setDefaultListenerAddress listener (push listener sbc)) := by
  unfold pushListener
  rw [bind_of_ok (listenerAddress_ok built sbc)]
  cases hasDefault <;> rfl

theorem pushListener_error {env : Environment} {iter : ListenerInfo} {thrown : Thrown}
    (fails : env.ipAddress iter.address = .error thrown) (hasDefault : Bool)
    (push : IPAddress → SBController → SBController) (sbc : SBController) :
    pushListener env hasDefault iter push sbc = .error thrown sbc :=
  bind_of_error (listenerAddress_error fails sbc)

theorem addListener_eq (env : Environment) (hasDefault : Bool) (iter : ListenerInfo)
    (sbc : SBController) :
    addListener env hasDefault iter sbc =
      if sbc.stack.enableUDP && toLower iter.proto == "udp" then
        pushListener env hasDefault iter addUdpListener sbc
      else if sbc.stack.enableTCP && toLower iter.proto == "tcp" then
        pushListener env hasDefault iter addTcpListener sbc
      else .ok hasDefault sbc := by
  unfold addListener
  rw [get_bind]
  split
  · rfl
  · split <;> rfl

/-- A listener is passed over, or it is added, or its address cannot be built. -/
theorem addListener_cases (env : Environment) (hasDefault : Bool) (iter : ListenerInfo)
    (sbc : SBController) :
    (sbc.stack.adds iter = false ∧ addListener env hasDefault iter sbc = .ok hasDefault sbc) ∨
      (sbc.stack.adds iter = true ∧ (∃ ip, env.ipAddress iter.address = .ok ip) ∧
        ∃ sbc', addListener env hasDefault iter sbc = .ok true sbc' ∧ OnlyListeners sbc sbc') ∨
      (sbc.stack.adds iter = true ∧ ∃ thrown, env.ipAddress iter.address = .error thrown ∧
        addListener env hasDefault iter sbc = .error thrown sbc) := by
  have pushed : ∀ push : IPAddress → SBController → SBController,
      (∀ listener sbc, OnlyListeners sbc (push listener sbc)) →
      ((∃ ip, env.ipAddress iter.address = .ok ip) ∧
        ∃ sbc', pushListener env hasDefault iter push sbc = .ok true sbc' ∧
          OnlyListeners sbc sbc') ∨
      (∃ thrown, env.ipAddress iter.address = .error thrown ∧
        pushListener env hasDefault iter push sbc = .error thrown sbc) := by
    intro push only
    cases built : env.ipAddress iter.address with
    | error thrown => exact .inr ⟨thrown, rfl, pushListener_error built hasDefault push sbc⟩
    | ok ip =>
        refine .inl ⟨⟨ip, rfl⟩, _, pushListener_ok built hasDefault push sbc, ?_⟩
        cases hasDefault with
        | true => exact only _ sbc
        | false => exact (only _ sbc).trans ⟨rfl, rfl, rfl, rfl, rfl, rfl⟩
  rw [addListener_eq]
  unfold Stack.adds
  cases udp : sbc.stack.enableUDP && toLower iter.proto == "udp" with
  | true =>
      right
      rcases pushed addUdpListener (fun _ _ => ⟨rfl, rfl, rfl, rfl, rfl, rfl⟩) with ok | error
      · exact .inl ⟨rfl, ok⟩
      · exact .inr ⟨rfl, error⟩
  | false =>
      cases tcp : sbc.stack.enableTCP && toLower iter.proto == "tcp" with
      | true =>
          right
          rcases pushed addTcpListener (fun _ _ => ⟨rfl, rfl, rfl, rfl, rfl, rfl⟩) with ok | error
          · exact .inl ⟨rfl, ok⟩
          · exact .inr ⟨rfl, error⟩
      | false => exact .inl ⟨rfl, rfl⟩

/-- The loop gets through when the address of every listener it adds can be
built; otherwise it throws what building one of them throws. -/
inductive LoopOutcome (env : Environment) (listeners : List ListenerInfo) (sbc : SBController) :
    EStateM.Result Thrown SBController Unit → Prop
  | through {sbc' : SBController} :
    (∀ iter ∈ listeners, sbc.stack.adds iter = true → ∃ ip, env.ipAddress iter.address = .ok ip) →
    OnlyListeners sbc sbc' → LoopOutcome env listeners sbc (.ok () sbc')
  | throws {iter : ListenerInfo} {thrown : Thrown} {sbc' : SBController} :
    iter ∈ listeners → sbc.stack.adds iter = true → env.ipAddress iter.address = .error thrown →
    LoopOutcome env listeners sbc (.error thrown sbc')

/-- A round that goes on makes the loop's outcome that of the rest. -/
theorem LoopOutcome.cons {env : Environment} {iter : ListenerInfo} {listeners : List ListenerInfo}
    {sbc sbc₁ : SBController} {result : EStateM.Result Thrown SBController Unit}
    (builds : sbc.stack.adds iter = true → ∃ ip, env.ipAddress iter.address = .ok ip)
    (only : OnlyListeners sbc sbc₁) (rest : LoopOutcome env listeners sbc₁ result) :
    LoopOutcome env (iter :: listeners) sbc result := by
  have same : ∀ iter, sbc₁.stack.adds iter = sbc.stack.adds iter := by
    intro iter
    unfold Stack.adds
    rw [only.enableUDP, only.enableTCP]
  cases rest with
  | through all only' =>
      refine .through ?_ (only.trans only')
      intro iter' member adds
      rcases List.mem_cons.mp member with rfl | member
      · exact builds adds
      · exact all iter' member ((same iter').trans adds)
  | throws member adds fails =>
      exact .throws (List.mem_cons_of_mem iter member) ((same _).symm.trans adds) fails

theorem addListeners_outcome (env : Environment) (hasDefault : Bool)
    (listeners : List ListenerInfo) (sbc : SBController) :
    LoopOutcome env listeners sbc (addListeners env hasDefault listeners sbc) := by
  induction listeners generalizing hasDefault sbc with
  | nil => exact .through (by intro iter member; cases member) (.refl sbc)
  | cons iter listeners ih =>
      unfold addListeners
      rcases addListener_cases env hasDefault iter sbc with
        ⟨passed, same⟩ | ⟨_, builds, sbc', added, only⟩ | ⟨adds, thrown, fails, threw⟩
      · rw [bind_of_ok same]
        exact .cons (by intro adds; rw [passed] at adds; cases adds) (.refl sbc) (ih hasDefault sbc)
      · rw [bind_of_ok added]
        exact .cons (fun _ => builds) only (ih true sbc')
      · rw [bind_of_error threw]
        exact .throws List.mem_cons_self adds fails

/-- The three ways through listener set-up. -/
theorem initListeners_eq (env : Environment) (config : ListenerConfig) (sbc : SBController) :
    initListeners env config sbc =
      match addListeners env false config.listeners sbc with
      | .error thrown sbc' => StartUp.caught thrown sbc'
      | .ok _ sbc' =>
          match env.transportInit with
          | .error thrown =>
              StartUp.caught thrown (setTCPPortRange config.tcpPortBase config.tcpPortMax sbc')
          | .ok _ => .ok true (setTCPPortRange config.tcpPortBase config.tcpPortMax sbc') := by
  unfold initListeners StartUp.trueUnlessStd
  cases added : addListeners env false config.listeners sbc with
  | error thrown sbc' => rw [bind_of_error added]
  | ok _ sbc' =>
      rw [bind_of_ok added, bind_of_ok (modify_ok _ sbc')]
      cases env.transportInit with
      | error thrown => rfl
      | ok _ => rfl

/-- What a handler makes of an exception is not a success. -/
theorem caught_ne_up (thrown : Thrown) (sbc sbc' : SBController) :
    StartUp.caught thrown sbc ≠ .ok true sbc' := by
  intro up
  cases thrown with
  | stdException => cases up
  | other => cases up

/-- Set-up that returns true has gone through the loop. -/
theorem addListeners_of_up {env : Environment} {config : ListenerConfig} {sbc sbc' : SBController}
    (up : initListeners env config sbc = .ok true sbc') :
    ∃ sbc₁, addListeners env false config.listeners sbc = .ok () sbc₁ ∧
      sbc' = setTCPPortRange config.tcpPortBase config.tcpPortMax sbc₁ := by
  rw [initListeners_eq] at up
  cases added : addListeners env false config.listeners sbc with
  | error thrown sbc₁ =>
      rw [added] at up
      exact absurd up (caught_ne_up thrown _ _)
  | ok _ sbc₁ =>
      rw [added] at up
      refine ⟨sbc₁, rfl, ?_⟩
      cases transport : env.transportInit with
      | error thrown =>
          rw [transport] at up
          exact absurd up (caught_ne_up thrown _ _)
      | ok _ =>
          rw [transport] at up
          cases up
          rfl

/-- What listener set-up comes to: every part of it succeeds, and the range is
set, or the address of a listener or the transport fails. -/
inductive ListenersOutcome (env : Environment) (config : ListenerConfig) (sbc : SBController) :
    EStateM.Result Thrown SBController Bool → Prop
  | up {sbc' : SBController} :
    (∀ iter ∈ config.listeners, sbc.stack.adds iter = true →
      ∃ ip, env.ipAddress iter.address = .ok ip) →
    env.transportInit = .ok () → sbc'.loaded = sbc.loaded →
    sbc'.defaultHandlerRegistered = sbc.defaultHandlerRegistered →
    sbc'.stack.tcpPortRange = (config.tcpPortBase, config.tcpPortMax) →
    ListenersOutcome env config sbc (.ok true sbc')
  | addressFails {iter : ListenerInfo} {thrown : Thrown} {sbc' : SBController} :
    iter ∈ config.listeners → sbc.stack.adds iter = true →
    env.ipAddress iter.address = .error thrown →
    ListenersOutcome env config sbc (StartUp.caught thrown sbc')
  | transportFails {thrown : Thrown} {sbc' : SBController} :
    (∀ iter ∈ config.listeners, sbc.stack.adds iter = true →
      ∃ ip, env.ipAddress iter.address = .ok ip) →
    env.transportInit = .error thrown →
    ListenersOutcome env config sbc (StartUp.caught thrown sbc')

theorem initListeners_outcome (env : Environment) (config : ListenerConfig) (sbc : SBController) :
    ListenersOutcome env config sbc (initListeners env config sbc) := by
  have loop := addListeners_outcome env false config.listeners sbc
  rw [initListeners_eq]
  generalize addListeners env false config.listeners sbc = result at loop
  cases loop with
  | throws member adds fails => exact .addressFails member adds fails
  | through builds only =>
      cases transport : env.transportInit with
      | error thrown => exact .transportFails builds transport
      | ok _ => exact .up builds transport only.loaded only.defaultHandlerRegistered rfl

/-- Set-up returns true when every address it needs can be built and the transport
comes up. -/
theorem initListeners_up_iff {env : Environment} {config : ListenerConfig} {sbc : SBController} :
    (∃ sbc', initListeners env config sbc = .ok true sbc') ↔
      (∀ iter ∈ config.listeners, sbc.stack.adds iter = true →
        ∃ ip, env.ipAddress iter.address = .ok ip) ∧ env.transportInit = .ok () := by
  have outcome := initListeners_outcome env config sbc
  generalize initListeners env config sbc = result at outcome
  cases outcome with
  | up builds transport => exact iff_of_true ⟨_, rfl⟩ ⟨builds, transport⟩
  | @addressFails iter thrown sbc' member adds fails =>
      refine iff_of_false (fun up => up.elim (caught_ne_up thrown sbc')) ?_
      intro builds
      rcases builds.1 iter member adds with ⟨ip, built⟩
      rw [fails] at built
      cases built
  | @transportFails thrown sbc' builds transport =>
      refine iff_of_false (fun up => up.elim (caught_ne_up thrown sbc')) ?_
      intro builds
      rw [transport] at builds
      cases builds.2

/-! ## Loading the scripts -/

/-- The script is not named, or it loads. -/
def passes (env : Environment) (globalScriptsDirectory : String)
    (entry : ScriptKind × String × String) : Bool :=
  entry.2.1.isEmpty || env.loadScript entry.1 entry.2.1 globalScriptsDirectory entry.2.2

/-- The controller once a script that is named has been loaded. -/
def addLoaded (kind : ScriptKind) (script : String) (sbc : SBController) : SBController :=
  { sbc with loaded := sbc.loaded ++ if script.isEmpty then [] else [(kind, script)] }

theorem loadScript_eq (env : Environment) (globalScriptsDirectory : String) (kind : ScriptKind)
    (script helper : String) (sbc : SBController) :
    loadScript env globalScriptsDirectory kind script helper sbc =
      if passes env globalScriptsDirectory (kind, script, helper) then
        .ok true (addLoaded kind script sbc)
      else .ok false sbc := by
  unfold loadScript passes addLoaded
  cases empty : script.isEmpty with
  | true => simp [pure, EStateM.pure]
  | false =>
      cases loads : env.loadScript kind script globalScriptsDirectory helper with
      | true => rfl
      | false => rfl

/-- The loads of `initHandler` over the list of its scripts. -/
def loadAll (env : Environment) (globalScriptsDirectory : String) :
    List (ScriptKind × String × String) → StartUp (Option Bool)
  | [] => do
      modify registerDefaultHandler
      return none
  | (kind, script, helper) :: entries => do
      if !(← loadScript env globalScriptsDirectory kind script helper) then
        return some false
      loadAll env globalScriptsDirectory entries

theorem initHandler_eq (env : Environment) (config : HandlerConfig) :
    initHandler env config = loadAll env config.globalScriptsDirectory config.scripts := rfl

/-- The entries that name a script. -/
def named (entries : List (ScriptKind × String × String)) : List (ScriptKind × String) :=
  entries.flatMap fun entry => if entry.2.1.isEmpty then [] else [(entry.1, entry.2.1)]

theorem mem_named {entries : List (ScriptKind × String × String)} {kind : ScriptKind}
    {script : String} :
    (kind, script) ∈ named entries ↔ script ≠ "" ∧ ∃ helper, (kind, script, helper) ∈ entries := by
  simp only [named, List.mem_flatMap]
  refine ⟨?_, ?_⟩
  · intro found
    obtain ⟨⟨kind', script', helper⟩, member, here⟩ := found
    split at here
    · cases here
    · rename_i nonempty
      cases List.mem_singleton.mp here
      exact ⟨fun empty => nonempty (by rw [empty]; rfl), helper, member⟩
  · intro found
    obtain ⟨nonempty, helper, member⟩ := found
    refine ⟨(kind, script, helper), member, ?_⟩
    rw [if_neg]
    · exact List.mem_singleton_self _
    · intro empty
      exact nonempty (String.isEmpty_iff.mp empty)

/-- All named scripts load: they are recorded and the default handler is
registered. -/
theorem loadAll_passes {env : Environment} {globalScriptsDirectory : String}
    {entries : List (ScriptKind × String × String)}
    (all : ∀ entry ∈ entries, passes env globalScriptsDirectory entry = true)
    (sbc : SBController) :
    loadAll env globalScriptsDirectory entries sbc =
      .ok none (registerDefaultHandler { sbc with loaded := sbc.loaded ++ named entries }) := by
  induction entries generalizing sbc with
  | nil =>
      have same : sbc.loaded ++ named [] = sbc.loaded := List.append_nil _
      rw [same]
      rfl
  | cons entry entries ih =>
      obtain ⟨kind, script, helper⟩ := entry
      have here := loadScript_eq env globalScriptsDirectory kind script helper sbc
      rw [if_pos (all _ List.mem_cons_self)] at here
      have rest := ih (fun e member => all e (List.mem_cons_of_mem _ member))
        (addLoaded kind script sbc)
      have step : loadAll env globalScriptsDirectory ((kind, script, helper) :: entries) sbc =
          loadAll env globalScriptsDirectory entries (addLoaded kind script sbc) := by
        rw [loadAll, bind_of_ok here]
        rfl
      have split : named ((kind, script, helper) :: entries) =
          (if script.isEmpty then [] else [(kind, script)]) ++ named entries := rfl
      rw [step, rest, split, ← List.append_assoc]
      rfl

/-- A named script does not load: false is returned, and the default handler is
not registered. -/
theorem loadAll_fails {env : Environment} {globalScriptsDirectory : String}
    {entries : List (ScriptKind × String × String)}
    (fails : ∃ entry ∈ entries, passes env globalScriptsDirectory entry = false)
    (sbc : SBController) :
    ∃ sbc', loadAll env globalScriptsDirectory entries sbc = .ok (some false) sbc' ∧
      sbc'.defaultHandlerRegistered = sbc.defaultHandlerRegistered ∧ sbc'.stack = sbc.stack := by
  induction entries generalizing sbc with
  | nil =>
      obtain ⟨entry, member, _⟩ := fails
      cases member
  | cons entry entries ih =>
      obtain ⟨kind, script, helper⟩ := entry
      have here := loadScript_eq env globalScriptsDirectory kind script helper sbc
      cases passed : passes env globalScriptsDirectory (kind, script, helper) with
      | false =>
          rw [passed] at here
          refine ⟨sbc, ?_, rfl, rfl⟩
          unfold loadAll
          rw [bind_of_ok here]
          rfl
      | true =>
          rw [passed] at here
          obtain ⟨entry, member, failed⟩ := fails
          rcases List.mem_cons.mp member with rfl | member
          · rw [passed] at failed
            cases failed
          · obtain ⟨sbc', stopped, same⟩ := ih ⟨entry, member, failed⟩ (addLoaded kind script sbc)
            refine ⟨sbc', ?_, same⟩
            unfold loadAll
            rw [bind_of_ok here]
            exact stopped

end SBController

end SipXsbc
