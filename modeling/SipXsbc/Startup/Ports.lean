import SipXsbc.Startup.FailClosed

/-!
# The ports from the settings to the transports

Three settings give the ports: the management side publishes them as they are,
for the firewall, and main narrows them to `unsigned short` for the controller.
Nothing checks them on the way, so the two sides agree exactly when the numbers
fit and the range is in order (`portsSurvive_iff`).
-/

namespace SipXsbc

open Main

/-- The three port settings. -/
structure SipxsbcSettings where
  tcpListenerPort : Int32
  baseTransportPort : Int32
  maxTransportPort : Int32

structure Location where
  address : String
  publicAddress : String
  deriving DecidableEq

structure AddressType where
  id : String
  deriving DecidableEq

def sipxsbcListenerAddress : AddressType := ⟨"sbcTcp"⟩

def sipxsbcTransportAddress : AddressType := ⟨"sbcTcpTransport"⟩

/-- A published address; the end port is missing where it is not set. -/
structure Address where
  type : AddressType
  address : String
  port : Int32
  endPort : Option Int32
  deriving DecidableEq

/-- `Location.toAddresses`: the same port at each location. -/
abbrev ToAddresses := AddressType → List Location → Int32 → List Address

/-- It answers one address for each location, with the port it is given. -/
def ToAddresses.Documented (toAddresses : ToAddresses) : Prop :=
  ∀ type locations port, toAddresses type locations port =
    locations.map fun location => ⟨type, location.address, port, none⟩

/-- The addresses published for the locations where the feature is enabled, or
null for a type of another feature. -/
def getAvailableAddresses (toAddresses : ToAddresses) (settings : SipxsbcSettings)
    (locations : List Location) (type : AddressType) : Option (List Address) :=
  if ¬ type ∈ [sipxsbcListenerAddress, sipxsbcTransportAddress] then none
  else if type = sipxsbcListenerAddress then
    some (toAddresses type locations settings.tcpListenerPort)
  else
    some (locations.map fun location =>
      ⟨type, location.address, settings.baseTransportPort, some settings.maxTransportPort⟩)

/-! ## Narrowing -/

/-- An `int` survives the narrowing to `unsigned short` exactly when it fits. -/
theorem unsignedShort_eq_iff (n : Int32) :
    ((unsignedShort n).toNat : Int) = n.toInt ↔ 0 ≤ n.toInt ∧ n.toInt ≤ 65535 := by
  have narrowed : (unsignedShort n).toNat = n.toBitVec.toNat % 65536 := rfl
  have value : n.toInt = n.toBitVec.toInt := rfl
  have bound := n.toBitVec.isLt
  rw [narrowed, value, BitVec.toInt_eq_toNat_cond]
  split <;> omega

/-! ## The same numbers on both sides -/

/-- The file has the integers of the settings. -/
structure Written (settings : SipxsbcSettings) (options : ServiceOptions) : Prop where
  port : options.number "listener-port" = .ok (some settings.tcpListenerPort)
  base : options.number "tcp-port-base" = .ok (some settings.baseTransportPort)
  max : options.number "tcp-port-max" = .ok (some settings.maxTransportPort)

/-- The listeners have the port of the settings and the transports their range,
which is in order, and these are the numbers published. -/
structure PortsSurvive (toAddresses : ToAddresses) (settings : SipxsbcSettings)
    (locations : List Location) (env : Environment) (config : ListenerConfig) : Prop where
  listeners : ∀ listener ∈ config.listeners,
    (listener.port.toNat : Int) = settings.tcpListenerPort.toInt
  base : (config.tcpPortBase.toNat : Int) = settings.baseTransportPort.toInt
  max : (config.tcpPortMax.toNat : Int) = settings.maxTransportPort.toInt
  ordered : config.tcpPortBase ≤ config.tcpPortMax
  range : ∀ sbc sbc', SBController.initListeners env config sbc = .ok true sbc' →
    sbc'.stack.tcpPortRange = (config.tcpPortBase, config.tcpPortMax)
  listenerPublished : ∃ addresses,
    getAvailableAddresses toAddresses settings locations sipxsbcListenerAddress = some addresses ∧
      addresses.map (·.address) = locations.map (·.address) ∧
      ∀ a ∈ addresses, ∀ listener ∈ config.listeners, a.port.toInt = listener.port.toNat
  transportPublished : ∃ addresses,
    getAvailableAddresses toAddresses settings locations sipxsbcTransportAddress = some addresses ∧
      addresses.map (·.address) = locations.map (·.address) ∧
      ∀ a ∈ addresses, a.port.toInt = config.tcpPortBase.toNat ∧
        ∃ endPort, a.endPort = some endPort ∧ endPort.toInt = config.tcpPortMax.toNat

/-- The settings are ports, and the range is in order. -/
structure PortsFit (settings : SipxsbcSettings) : Prop where
  port : 0 ≤ settings.tcpListenerPort.toInt ∧ settings.tcpListenerPort.toInt ≤ 65535
  base : 0 ≤ settings.baseTransportPort.toInt
  ordered : settings.baseTransportPort.toInt ≤ settings.maxTransportPort.toInt
  max : settings.maxTransportPort.toInt ≤ 65535

/-- The file can be read up to a listener address, and has one. -/
def HasListenerAddress (process : Process) : Prop :=
  ∃ options external address, ConfigFile process options ∧
    options.text "external-address" = .ok external ∧
    options.text "listener-address" = .ok (some address) ∧ address ≠ ""

theorem initListeners_range {env : Environment} {config : ListenerConfig} {sbc sbc' : SBController}
    (up : SBController.initListeners env config sbc = .ok true sbc') :
    sbc'.stack.tcpPortRange = (config.tcpPortBase, config.tcpPortMax) := by
  obtain ⟨sbc₁, _, rfl⟩ := SBController.addListeners_of_up up
  rfl

section Ports

variable {toAddresses : ToAddresses} {process : Process} {settings : SipxsbcSettings}
  {locations : List Location}

/-- The controller is given the narrowed settings, if the file has an address. -/
theorem listenerConfig_written
    (written : ∀ options, ConfigFile process options → Written settings options)
    {config : ListenerConfig} :
    listenerConfig process = .ok config ↔
      ∃ options external address, ConfigFile process options ∧
        options.text "external-address" = .ok external ∧
        options.text "listener-address" = .ok (some address) ∧ address ≠ "" ∧
        config = configOf external (some address) (some settings.tcpListenerPort)
          (some settings.baseTransportPort) (some settings.maxTransportPort) := by
  rw [listenerConfig_eq_ok]
  refine ⟨?_, ?_⟩
  · intro given
    obtain ⟨options, external, address, port, base, max, file, read, nonempty, rfl⟩ := given
    have wrote := written options file
    obtain rfl : some settings.tcpListenerPort = port :=
      Except.ok.inj (wrote.port.symm.trans read.port)
    obtain rfl : some settings.baseTransportPort = base :=
      Except.ok.inj (wrote.base.symm.trans read.base)
    obtain rfl : some settings.maxTransportPort = max :=
      Except.ok.inj (wrote.max.symm.trans read.max)
    exact ⟨options, external, address, file, read.external, read.address, nonempty, rfl⟩
  · intro given
    obtain ⟨options, external, address, file, external_, address_, nonempty, rfl⟩ := given
    have wrote := written options file
    exact ⟨options, external, address, _, _, _, file,
      ⟨external_, address_, wrote.port, wrote.base, wrote.max⟩, nonempty, rfl⟩

/-- The ports survive in a configuration with the narrowed settings exactly when they
fit. -/
theorem portsSurvive_configOf_iff (documented : toAddresses.Documented) (env : Environment)
    (external : Option String) (address : String) :
    PortsSurvive toAddresses settings locations env
        (configOf external (some address) (some settings.tcpListenerPort)
          (some settings.baseTransportPort) (some settings.maxTransportPort)) ↔
      PortsFit settings := by
  refine ⟨?_, ?_⟩
  · intro survived
    have port := (unsignedShort_eq_iff _).mp (survived.listeners _ List.mem_cons_self)
    have base := (unsignedShort_eq_iff _).mp survived.base
    have max := (unsignedShort_eq_iff _).mp survived.max
    have ordered : (unsignedShort settings.baseTransportPort).toNat ≤
        (unsignedShort settings.maxTransportPort).toNat := survived.ordered
    have baseEq := survived.base
    have maxEq := survived.max
    simp only [configOf, Option.getD_some] at port base max baseEq maxEq
    exact ⟨port, base.1, by omega, max.2⟩
  · intro fit
    obtain ⟨portFits, baseFits, inOrder, maxFits⟩ := fit
    have port := (unsignedShort_eq_iff settings.tcpListenerPort).mpr portFits
    have base := (unsignedShort_eq_iff settings.baseTransportPort).mpr ⟨baseFits, by omega⟩
    have max := (unsignedShort_eq_iff settings.maxTransportPort).mpr ⟨by omega, maxFits⟩
    have listeners : ∀ listener ∈ (configOf external (some address)
        (some settings.tcpListenerPort) (some settings.baseTransportPort)
        (some settings.maxTransportPort)).listeners,
        (listener.port.toNat : Int) = settings.tcpListenerPort.toInt := by
      intro listener member
      simp only [configOf, List.mem_cons, List.not_mem_nil, or_false] at member
      rcases member with rfl | rfl
      · exact port
      · exact port
    refine ⟨listeners, base, max, ?_, fun _ _ up => initListeners_range up, ?_, ?_⟩
    · have le : (unsignedShort settings.baseTransportPort).toNat ≤
          (unsignedShort settings.maxTransportPort).toNat := by omega
      exact le
    · refine ⟨_, rfl, ?_, ?_⟩
      · rw [documented, List.map_map]
        rfl
      · intro a member listener member'
        rw [documented] at member
        obtain ⟨location, _, rfl⟩ := List.mem_map.mp member
        exact (listeners listener member').symm
    · refine ⟨_, rfl, ?_, ?_⟩
      · rw [List.map_map]
        rfl
      · intro a member
        obtain ⟨location, _, rfl⟩ := List.mem_map.mp member
        exact ⟨base.symm, _, rfl, max.symm⟩

/-- **The ports survive exactly when they fit** or the program exits for want of
a listener address. -/
theorem portsSurvive_iff (documented : toAddresses.Documented)
    (written : ∀ options, ConfigFile process options → Written settings options) :
    (∀ config, listenerConfig process = .ok config →
        PortsSurvive toAddresses settings locations process.env config) ↔
      (HasListenerAddress process → PortsFit settings) := by
  refine ⟨?_, ?_⟩
  · intro survive has
    obtain ⟨options, external, address, file, external_, address_, nonempty⟩ := has
    have given := (listenerConfig_written written).mpr
      ⟨options, external, address, file, external_, address_, nonempty, rfl⟩
    exact (portsSurvive_configOf_iff documented process.env external address).mp
      (survive _ given)
  · intro fits config given
    obtain ⟨options, external, address, file, external_, address_, nonempty, rfl⟩ :=
      (listenerConfig_written written).mp given
    rw [portsSurvive_configOf_iff documented]
    exact fits ⟨options, external, address, file, external_, address_, nonempty⟩

end Ports

/-- A program whose file has these settings. -/
def withSettings (settings : SipxsbcSettings) : Process :=
  { routeScriptBroken with
    files := fun path =>
      if path = "/etc/sipxpbx/sipxsbc.ini" then
        .parsed (.ofLists [("listener-address", "192.0.2.1"), ("external-address", "192.0.2.1")]
          [("listener-port", settings.tcpListenerPort),
            ("tcp-port-base", settings.baseTransportPort),
            ("tcp-port-max", settings.maxTransportPort)])
      else .unparsable }

/-- A listener port of 70000 becomes 4464. -/
theorem portsSurvive_fails :
    ¬ ∀ config, listenerConfig (withSettings ⟨70000, 30000, 40000⟩) = .ok config →
      PortsSurvive (fun type locations port =>
          locations.map fun location => ⟨type, location.address, port, none⟩)
        ⟨70000, 30000, 40000⟩ [⟨"192.0.2.1", "192.0.2.1"⟩]
        (withSettings ⟨70000, 30000, 40000⟩).env config := by
  intro survive
  have survived := survive (configOf (some "192.0.2.1") (some "192.0.2.1") (some 70000)
    (some 30000) (some 40000)) rfl
  have port := survived.listeners _ List.mem_cons_self
  revert port
  decide

theorem written_withSettings (settings : SipxsbcSettings) (options : ServiceOptions)
    (file : ConfigFile (withSettings settings) options) : Written settings options := by
  have own : ConfigFile (withSettings settings)
      (.ofLists [("listener-address", "192.0.2.1"), ("external-address", "192.0.2.1")]
        [("listener-port", settings.tcpListenerPort),
          ("tcp-port-base", settings.baseTransportPort),
          ("tcp-port-max", settings.maxTransportPort)]) :=
    ⟨"/etc/sipxpbx/sipxsbc.ini", rfl, rfl⟩
  obtain rfl := own.unique file
  exact ⟨rfl, rfl, rfl⟩

/-- The equivalence at the default settings. -/
theorem portsSurvive_iff_default :
    (∀ config, listenerConfig (withSettings ⟨5060, 30000, 40000⟩) = .ok config →
        PortsSurvive (fun type locations port =>
            locations.map fun location => ⟨type, location.address, port, none⟩)
          ⟨5060, 30000, 40000⟩ [⟨"192.0.2.1", "192.0.2.1"⟩]
          (withSettings ⟨5060, 30000, 40000⟩).env config) ↔
      (HasListenerAddress (withSettings ⟨5060, 30000, 40000⟩) → PortsFit ⟨5060, 30000, 40000⟩) :=
  portsSurvive_iff (fun _ _ _ => rfl) (written_withSettings _)

end SipXsbc
