import SipXsbc.Keyed.Distribution
import SipXsbc.Startup.Controller

/-!
# Where the configured listeners go

`initListeners` distributes the configured listeners over the UDP and the TCP list of
the stack, in one loop, and makes the first that it adds to either the default. The
loop follows a distribution (`Keyed.Trays`), so each list is its old content followed
by the listeners of its protocol, in order (`initListeners_distributes`).
-/

namespace SipXsbc

open Keyed

/-- The protocols that the stack has a list of listeners for. -/
inductive Protocol
  | udp
  | tcp
  deriving DecidableEq

/-- The protocol in lower case. -/
def Protocol.name : Protocol → String
  | .udp => "udp"
  | .tcp => "tcp"

instance : Nontrivial IPAddress := ⟨⟨"", "", 0⟩, ⟨"", "", 1⟩, by decide⟩

/-- What a configured listener becomes. -/
def ListenerInfo.ipAddress (iter : ListenerInfo) : IPAddress :=
  ⟨iter.address, iter.externalAddress, iter.port⟩

/-- An address that is built from a text has that text as its address. -/
def Environment.KeepsAddress (env : Environment) : Prop :=
  ∀ address ip, env.ipAddress address = .ok ip → ip.address = address

namespace Stack

def listeners (stack : Stack) : Protocol → List IPAddress
  | .udp => stack.udpListeners
  | .tcp => stack.tcpListeners

def enables (stack : Stack) : Protocol → Bool
  | .udp => stack.enableUDP
  | .tcp => stack.enableTCP

/-- The list that a configured listener is added to, if any. -/
def route (stack : Stack) (iter : ListenerInfo) : Option Protocol :=
  if stack.enableUDP && toLower iter.proto == "udp" then some .udp
  else if stack.enableTCP && toLower iter.proto == "tcp" then some .tcp
  else none

theorem route_isSome (stack : Stack) (iter : ListenerInfo) :
    (stack.route iter).isSome = stack.adds iter := by
  unfold route adds
  cases stack.enableUDP && toLower iter.proto == "udp" with
  | true => rfl
  | false => cases stack.enableTCP && toLower iter.proto == "tcp" <;> rfl

theorem route_eq_some_iff (stack : Stack) (iter : ListenerInfo) (protocol : Protocol) :
    stack.route iter = some protocol ↔
      stack.enables protocol = true ∧ toLower iter.proto = protocol.name := by
  unfold route
  split
  · rename_i udp
    rw [Bool.and_eq_true, beq_iff_eq] at udp
    cases protocol with
    | udp => exact iff_of_true rfl udp
    | tcp =>
        refine iff_of_false (by simp) ?_
        intro tcp
        exact absurd (udp.2.symm.trans tcp.2) (by decide)
  · rename_i notUdp
    rw [Bool.and_eq_true, beq_iff_eq] at notUdp
    split
    · rename_i tcp
      rw [Bool.and_eq_true, beq_iff_eq] at tcp
      cases protocol with
      | udp => exact iff_of_false (by simp) notUdp
      | tcp => exact iff_of_true rfl tcp
    · rename_i notTcp
      rw [Bool.and_eq_true, beq_iff_eq] at notTcp
      cases protocol with
      | udp => exact iff_of_false (by simp) notUdp
      | tcp => exact iff_of_false (by simp) notTcp

/-- The listeners of a configuration that go to one list. -/
theorem filter_route (stack : Stack) (listeners : List ListenerInfo) (protocol : Protocol) :
    (listeners.filter fun iter => stack.route iter = some protocol) =
      if stack.enables protocol then
        listeners.filter fun iter => toLower iter.proto == protocol.name
      else [] := by
  cases enabled : stack.enables protocol with
  | true => simp [route_eq_some_iff, enabled, beq_eq_decide]
  | false => simp [route_eq_some_iff, enabled]

end Stack

namespace SBController

/-! ## The loop -/

section Loop

variable {env : Environment} {old : IPAddress} {sbc sbc' : SBController} {hasDefault had : Bool}
  {t : Trays Protocol IPAddress} {iter : ListenerInfo}
  {push : IPAddress → SBController → SBController} {protocol : Protocol}

/-- The loop is where the distribution is: the lists of the stack are its lists, and
the default is what it remembers, or the old one as long as that is nothing. -/
structure Follows (old : IPAddress) (sbc : SBController) (hasDefault : Bool)
    (t : Trays Protocol IPAddress) : Prop where
  lists : sbc.stack.listeners = t.lists
  hasDefault_eq : hasDefault = t.first.isSome
  default_eq : sbc.stack.defaultListenerAddress = t.first.getD old

/-- A push appends to the list of one protocol. -/
structure Pushes (push : IPAddress → SBController → SBController) (protocol : Protocol) :
    Prop where
  lists : ∀ listener sbc, (push listener sbc).stack.listeners =
    Function.update sbc.stack.listeners protocol (sbc.stack.listeners protocol ++ [listener])
  default_eq : ∀ listener sbc,
    (push listener sbc).stack.defaultListenerAddress = sbc.stack.defaultListenerAddress

theorem addUdpListener_pushes : Pushes addUdpListener .udp := by
  refine ⟨?_, fun _ _ => rfl⟩
  intro listener sbc
  funext protocol
  cases protocol with
  | udp =>
      rw [Function.update_self]
      rfl
  | tcp =>
      have other : Protocol.tcp ≠ .udp := by decide
      rw [Function.update_of_ne other]
      rfl

theorem addTcpListener_pushes : Pushes addTcpListener .tcp := by
  refine ⟨?_, fun _ _ => rfl⟩
  intro listener sbc
  funext protocol
  cases protocol with
  | udp =>
      have other : Protocol.udp ≠ .tcp := by decide
      rw [Function.update_of_ne other]
      rfl
  | tcp =>
      rw [Function.update_self]
      rfl

/-- A push that goes well appends the address of its listener. -/
theorem eq_of_pushListener (keeps : env.KeepsAddress)
    (pushed : pushListener env hasDefault iter push sbc = .ok had sbc') :
    had = true ∧ sbc' = if hasDefault then push iter.ipAddress sbc
      else setDefaultListenerAddress iter.ipAddress (push iter.ipAddress sbc) := by
  cases built : env.ipAddress iter.address with
  | error thrown =>
      rw [pushListener_error built] at pushed
      cases pushed
  | ok ip =>
      have address : ip.address = iter.address := keeps iter.address ip built
      have listener : { ip with externalAddress := iter.externalAddress, port := iter.port } =
          iter.ipAddress := by
        unfold ListenerInfo.ipAddress
        rw [address]
      rw [pushListener_ok built, listener] at pushed
      cases pushed
      exact ⟨rfl, rfl⟩

theorem Follows.pushed (follows : Follows old sbc hasDefault t) (pushes : Pushes push protocol)
    (listener : IPAddress) :
    Follows old (if hasDefault then push listener sbc
      else setDefaultListenerAddress listener (push listener sbc)) true
      (t.put protocol listener) := by
  have lists : (push listener sbc).stack.listeners = (t.put protocol listener).lists := by
    rw [pushes.lists, follows.lists]
    rfl
  have latched := follows.hasDefault_eq
  cases first : t.first with
  | none =>
      rw [first] at latched
      subst latched
      refine ⟨lists, ?_, ?_⟩
      · simp [Trays.put]
      · simp [Trays.put, first, setDefaultListenerAddress]
  | some kept =>
      rw [first] at latched
      subst latched
      refine ⟨lists, ?_, ?_⟩
      · simp [Trays.put]
      · have default_ := follows.default_eq
        rw [first] at default_
        simp [Trays.put, first, pushes.default_eq, default_]

theorem onlyListeners_of_addListener (added : addListener env hasDefault iter sbc = .ok had sbc') :
    OnlyListeners sbc sbc' := by
  rcases addListener_cases env hasDefault iter sbc with
    ⟨_, same⟩ | ⟨_, _, sbc₁, ok, only⟩ | ⟨_, thrown, _, threw⟩
  · rw [added] at same
    cases same
    exact .refl sbc
  · rw [added] at ok
    cases ok
    exact only
  · rw [added] at threw
    cases threw

theorem OnlyListeners.route_eq (only : OnlyListeners sbc sbc') :
    sbc'.stack.route = sbc.stack.route := by
  funext iter
  unfold Stack.route
  rw [only.enableUDP, only.enableTCP]

/-- A round of the loop is a step of the distribution. -/
theorem Follows.round (keeps : env.KeepsAddress) (follows : Follows old sbc hasDefault t)
    (added : addListener env hasDefault iter sbc = .ok had sbc') :
    Follows old sbc' had (Trays.distribute sbc.stack.route ListenerInfo.ipAddress t iter) := by
  rw [addListener_eq] at added
  unfold Trays.distribute Stack.route
  split at added
  · rename_i udp
    obtain ⟨rfl, rfl⟩ := eq_of_pushListener keeps added
    rw [if_pos udp]
    exact follows.pushed addUdpListener_pushes iter.ipAddress
  · rename_i notUdp
    rw [if_neg notUdp]
    split at added
    · rename_i tcp
      obtain ⟨rfl, rfl⟩ := eq_of_pushListener keeps added
      rw [if_pos tcp]
      exact follows.pushed addTcpListener_pushes iter.ipAddress
    · rename_i notTcp
      rw [if_neg notTcp]
      cases added
      exact follows

/-- The loop over a configuration is the distribution of its listeners. -/
theorem Follows.loop (keeps : env.KeepsAddress) {listeners : List ListenerInfo}
    (follows : Follows old sbc hasDefault t)
    (added : addListeners env hasDefault listeners sbc = .ok () sbc') :
    ∃ had, Follows old sbc' had
      (Trays.distributeAll sbc.stack.route ListenerInfo.ipAddress t listeners) := by
  induction listeners generalizing sbc hasDefault t with
  | nil =>
      cases added
      exact ⟨hasDefault, follows⟩
  | cons iter listeners ih =>
      unfold addListeners at added
      cases first : addListener env hasDefault iter sbc with
      | error thrown sbc₁ =>
          rw [bind_of_error first] at added
          cases added
      | ok had sbc₁ =>
          rw [bind_of_ok first] at added
          have rest := ih (follows.round keeps first) added
          rw [(onlyListeners_of_addListener first).route_eq] at rest
          exact rest

end Loop

/-! ## Listener set-up -/

/-- The configured listeners are distributed over the lists of the stack, and the first
that was added is the default. -/
structure Distributed (listeners : List ListenerInfo) (stack stack' : Stack) : Prop where
  lists : ∀ protocol, stack'.listeners protocol = stack.listeners protocol ++
    if stack.enables protocol then
      (listeners.filter fun iter => toLower iter.proto == protocol.name).map
        ListenerInfo.ipAddress
    else []
  default_first : ∀ iter, listeners.find? stack.adds = some iter →
    stack'.defaultListenerAddress = iter.ipAddress
  default_kept : listeners.find? stack.adds = none →
    stack'.defaultListenerAddress = stack.defaultListenerAddress

/-- Set-up does not touch the default: whatever it is before, it is that after. From one
run this cannot be told, as the first listener may have the address of the old default. -/
def LeavesDefault (env : Environment) (config : ListenerConfig) (sbc : SBController) : Prop :=
  ∀ address sbc', initListeners env config (setDefaultListenerAddress address sbc) = .ok true sbc' →
    sbc'.stack.defaultListenerAddress = address

section SetUp

variable {env : Environment} {config : ListenerConfig} {sbc sbc' : SBController}

theorem find?_adds (stack : Stack) (listeners : List ListenerInfo) :
    (listeners.find? fun iter => (stack.route iter).isSome) = listeners.find? stack.adds := by
  congr 1
  funext iter
  exact stack.route_isSome iter

/-- What set-up leaves is the distribution of the configured listeners. -/
theorem follows_of_up (keeps : env.KeepsAddress)
    (up : initListeners env config sbc = .ok true sbc') :
    ∃ had, Follows sbc.stack.defaultListenerAddress sbc' had
      (Trays.distributeAll sbc.stack.route ListenerInfo.ipAddress ⟨sbc.stack.listeners, none⟩
        config.listeners) := by
  obtain ⟨sbc₁, added, rfl⟩ := addListeners_of_up up
  have start : Follows sbc.stack.defaultListenerAddress sbc false ⟨sbc.stack.listeners, none⟩ :=
    ⟨rfl, rfl, rfl⟩
  obtain ⟨had, lists, hasDefault, default_⟩ := start.loop keeps added
  exact ⟨had, lists, hasDefault, default_⟩

theorem distributed_of_up (keeps : env.KeepsAddress)
    (up : initListeners env config sbc = .ok true sbc') :
    Distributed config.listeners sbc.stack sbc'.stack := by
  obtain ⟨had, follows⟩ := follows_of_up keeps up
  have default_ := follows.default_eq
  rw [Trays.distributeAll_first, Option.none_or, find?_adds] at default_
  refine ⟨?_, ?_, ?_⟩
  · intro protocol
    rw [follows.lists, Trays.distributeAll_lists, Stack.filter_route]
    split
    · rfl
    · rfl
  · intro iter found
    rw [found] at default_
    exact default_
  · intro none
    rw [none] at default_
    exact default_

/-- The lists are as they were when nothing was added to either. -/
theorem listeners_eq_iff (keeps : env.KeepsAddress)
    (up : initListeners env config sbc = .ok true sbc') :
    sbc'.stack.listeners = sbc.stack.listeners ↔ config.listeners.find? sbc.stack.adds = none := by
  obtain ⟨had, follows⟩ := follows_of_up keeps up
  rw [follows.lists, funext_iff, Trays.distributeAll_lists_eq_iff, ← find?_adds,
    List.find?_eq_none]
  apply forall₂_congr
  intro iter _
  rw [Bool.not_eq_true, Option.isSome_eq_false_iff, Option.isNone_iff_eq_none]

/-- **Listener set-up distributes the configured listeners**, and leaves the default
alone exactly when it adds none of them. -/
theorem initListeners_distributes (keeps : env.KeepsAddress)
    (up : initListeners env config sbc = .ok true sbc') :
    Distributed config.listeners sbc.stack sbc'.stack ∧
      (LeavesDefault env config sbc ↔ sbc'.stack.listeners = sbc.stack.listeners) := by
  refine ⟨distributed_of_up keeps up, ?_⟩
  rw [listeners_eq_iff keeps up]
  refine ⟨?_, ?_⟩
  · intro leaves
    cases found : config.listeners.find? sbc.stack.adds with
    | none => rfl
    | some iter =>
        -- a default that differs from the first listener does not stay
        obtain ⟨address, other⟩ := exists_ne iter.ipAddress
        have builds := initListeners_up_iff.mp ⟨sbc', up⟩
        have returns : ∃ sbc₁, initListeners env config
            (setDefaultListenerAddress address sbc) = .ok true sbc₁ :=
          initListeners_up_iff.mpr builds
        obtain ⟨sbc₁, up₁⟩ := returns
        have first := (distributed_of_up keeps up₁).default_first iter found
        exact absurd ((leaves address sbc₁ up₁).symm.trans first) other
  · intro none address sbc₁ up₁
    exact (distributed_of_up keeps up₁).default_kept none

end SetUp

/-- Four listeners, the first of a protocol that the stack has no list for. -/
def mixedListeners : ListenerConfig where
  listeners := [⟨"10.0.0.1", "47.1.1.1", 5061, "tls"⟩, ⟨"10.0.0.2", "47.1.1.2", 5060, "Tcp"⟩,
    ⟨"10.0.0.3", "47.1.1.3", 5080, "UDP"⟩, ⟨"10.0.0.4", "47.1.1.4", 5060, "tcp"⟩]

def plainEnvironment : Environment where
  ipAddress address := .ok ⟨address, "", 0⟩
  transportInit := .ok ()
  loadScript _ _ _ _ := true

/-- A controller with a UDP listener and a default already. -/
def listeningController : SBController :=
  ⟨⟨true, true, [⟨"127.0.0.1", "", 5060⟩], [], ⟨"127.0.0.1", "", 5060⟩, (0, 0)⟩, [], false, ""⟩

/-- The TCP listener before the UDP one becomes the default. -/
theorem initListeners_distributes_mixed :
    ∃ sbc', initListeners plainEnvironment mixedListeners listeningController = .ok true sbc' ∧
      sbc'.stack.udpListeners = [⟨"127.0.0.1", "", 5060⟩, ⟨"10.0.0.3", "47.1.1.3", 5080⟩] ∧
      sbc'.stack.defaultListenerAddress = ⟨"10.0.0.2", "47.1.1.2", 5060⟩ ∧
      Distributed mixedListeners.listeners listeningController.stack sbc'.stack ∧
      ¬ LeavesDefault plainEnvironment mixedListeners listeningController := by
  have keeps : plainEnvironment.KeepsAddress := by
    intro address ip built
    cases built
    rfl
  obtain ⟨sbc', up⟩ : ∃ sbc',
      initListeners plainEnvironment mixedListeners listeningController = .ok true sbc' := ⟨_, rfl⟩
  obtain ⟨distributed, leaves⟩ := initListeners_distributes keeps up
  have udp := distributed.lists .udp
  refine ⟨sbc', up, udp, distributed.default_first ⟨"10.0.0.2", "47.1.1.2", 5060, "Tcp"⟩ ?_,
    distributed, ?_⟩
  · decide
  · rw [leaves]
    intro same
    have unchanged := congrFun same .udp
    rw [udp] at unchanged
    revert unchanged
    decide

end SBController

end SipXsbc
