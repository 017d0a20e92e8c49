import SipXsbc.Config.Deployed
import SipXsbc.Script.Handlers

/-!
# From the settings to a routed request

The domain of the installation is written to `sipxsbc.ini` by the agent, read by main, kept by
the controller through its start-up, and given to the routing script. A service that was deployed
therefore routes every request for this domain, with the handlers that were installed.
-/

namespace SipXsbc

open Keyed Reading Main

/-! ## What start-up keeps -/

section Keeps

variable {P : SBController → Prop} {env : Environment}

theorem Keeps.call {α : Type} (outcome : Except Thrown α) : Keeps P (StartUp.call outcome) := by
  intro sbc held
  cases outcome with
  | ok a => exact held
  | error thrown => exact held

theorem Keeps.pure {α : Type} (a : α) : Keeps P (pure a : StartUp α) := fun _ held => held

theorem Keeps.caught (thrown : Thrown) : Keeps P (StartUp.caught thrown) := by
  intro sbc held
  cases thrown with
  | stdException => exact held
  | other => exact held

theorem Keeps.trueUnlessStd {body : StartUp Unit} (keeps : Keeps P body) :
    Keeps P (StartUp.trueUnlessStd body) := by
  intro sbc held
  have kept := keeps sbc held
  unfold StartUp.trueUnlessStd
  cases result : body sbc with
  | ok _ sbc' =>
      rw [result] at kept
      exact kept
  | error thrown sbc' =>
      rw [result] at kept
      exact Keeps.caught thrown sbc' kept

/-- What is kept by whatever a step comes to is kept by the step. -/
theorem Keeps.of_cases {α : Type} {body : StartUp α}
    (comesTo : ∀ sbc, ∃ body', body sbc = body' sbc ∧ Keeps P body') : Keeps P body := by
  intro sbc held
  obtain ⟨body', same, keeps⟩ := comesTo sbc
  have kept := keeps sbc held
  rw [← same] at kept
  exact kept

section Listeners

variable (stackOnly : ∀ sbc stack, P sbc → P { sbc with stack := stack })
include stackOnly

theorem keeps_pushListener (hasDefault : Bool) (iter : ListenerInfo)
    {push : IPAddress → SBController → SBController}
    (keeps : ∀ listener sbc, P sbc → P (push listener sbc)) :
    Keeps P (SBController.pushListener env hasDefault iter push) := by
  refine Keeps.bind (Keeps.bind (Keeps.call _) fun _ => Keeps.pure _) fun listener => ?_
  refine Keeps.bind (Keeps.modify fun sbc held => keeps listener sbc held) fun _ => ?_
  cases hasDefault with
  | true => exact Keeps.pure true
  | false =>
      exact Keeps.bind (Keeps.modify fun sbc held => stackOnly sbc _ held) fun _ => Keeps.pure true

theorem keeps_addListener (hasDefault : Bool) (iter : ListenerInfo) :
    Keeps P (SBController.addListener env hasDefault iter) := by
  apply Keeps.of_cases
  intro sbc
  have round := SBController.addListener_eq env hasDefault iter sbc
  by_cases udp : (sbc.stack.enableUDP && toLower iter.proto == "udp") = true
  · rw [if_pos udp] at round
    exact ⟨_, round, keeps_pushListener stackOnly hasDefault iter
      fun _ sbc held => stackOnly sbc _ held⟩
  · rw [if_neg udp] at round
    by_cases tcp : (sbc.stack.enableTCP && toLower iter.proto == "tcp") = true
    · rw [if_pos tcp] at round
      exact ⟨_, round, keeps_pushListener stackOnly hasDefault iter
        fun _ sbc held => stackOnly sbc _ held⟩
    · rw [if_neg tcp] at round
      exact ⟨pure hasDefault, round, Keeps.pure hasDefault⟩

theorem keeps_addListeners (listeners : List ListenerInfo) (hasDefault : Bool) :
    Keeps P (SBController.addListeners env hasDefault listeners) := by
  induction listeners generalizing hasDefault with
  | nil => exact Keeps.pure ()
  | cons iter listeners ih =>
      exact Keeps.bind (keeps_addListener stackOnly hasDefault iter) fun hasDefault => ih hasDefault

/-- Listener set-up changes nothing but the stack, also where it fails. -/
theorem keeps_initListeners (config : ListenerConfig) :
    Keeps P (SBController.initListeners env config) := by
  refine Keeps.trueUnlessStd (Keeps.bind (keeps_addListeners stackOnly _ _) fun _ => ?_)
  exact Keeps.bind (Keeps.modify fun sbc held => stackOnly sbc _ held) fun _ => Keeps.call _

end Listeners

end Keeps

/-! ## The deployed service -/

/-- The scripts that are installed under a directory, in the order of their loads. -/
def installedScripts (confDir : String) : List (ScriptKind × String) :=
  [(.inboundRequest, confDir ++ "/sipxsbc/handlers/inboundRequest.js"),
    (.routeRequest, confDir ++ "/sipxsbc/handlers/routeRequest.js"),
    (.outboundRequest, confDir ++ "/sipxsbc/handlers/outboundRequest.js"),
    (.outboundResponse, confDir ++ "/sipxsbc/handlers/outboundResponse.js")]

/-- Each of them loads, with the global scripts of the directory. -/
def Environment.LoadsInstalled (env : Environment) (confDir : String) : Prop :=
  ∀ entry ∈ installedScripts confDir,
    env.loadScript entry.1 entry.2 (confDir ++ "/sipxsbc/globals") "" = true

/-- A controller with the installed scripts and the domain of the installation. -/
structure Installed (vars : SipxVars) (sbc : SBController) : Prop where
  loaded : sbc.loaded = installedScripts vars.confDir
  defaultHandler : sbc.defaultHandlerRegistered = true
  domain : sbc.defaultTargetDomain = vars.domain

theorem named_installedHandlers (confDir : String) :
    SBController.named (installedHandlers confDir).scripts = installedScripts confDir := by
  simp [SBController.named, HandlerConfig.scripts, installedHandlers, installedScripts]

theorem passes_installedHandlers {env : Environment} {confDir : String}
    (loads : env.LoadsInstalled confDir) :
    ∀ entry ∈ (installedHandlers confDir).scripts,
      SBController.passes env (installedHandlers confDir).globalScriptsDirectory entry = true := by
  intro entry member
  obtain ⟨kind, script, helper⟩ := entry
  unfold SBController.passes
  rw [Bool.or_eq_true]
  by_cases unnamed : script = ""
  · exact .inl (String.isEmpty_iff.mpr unnamed)
  · right
    have found := SBController.mem_named.mpr ⟨unnamed, helper, member⟩
    rw [named_installedHandlers] at found
    have helperless : helper = "" := by
      rw [← (HandlerConfig.mem_scripts.mp member).2]
      cases kind <;> rfl
    rw [helperless]
    exact loads _ found

section Service

variable {settings : ModelSettings} {location : Location} {vars : SipxVars} {process : Process}
  {options : ServiceOptions}

/-- Script set-up installs what was written, if the scripts load. -/
theorem initHandler_asWritten (file : ConfigFile process options)
    (written : AsWritten settings location vars options)
    (loads : process.env.LoadsInstalled vars.confDir) :
    ∃ sbc, initHandler process (newController process) = .ok none sbc ∧ Installed vars sbc := by
  have run : initHandler process (newController process) =
      SBController.loadAll process.env (installedHandlers vars.confDir).globalScriptsDirectory
        (installedHandlers vars.confDir).scripts
        { newController process with defaultTargetDomain := vars.domain } := by
    unfold initHandler
    rw [get_bind, read_asWritten file written]
    rfl
  rw [run, SBController.loadAll_passes (passes_installedHandlers loads), named_installedHandlers]
  exact ⟨_, rfl, rfl, rfl, rfl⟩

/-- A program whose calls succeed runs on what was written. -/
theorem main_asWritten (file : ConfigFile process options)
    (written : AsWritten settings location vars options) (nonempty : location.address ≠ "")
    (loads : process.env.LoadsInstalled vars.confDir) (logger : initLogger process = .ok ())
    (dataStore : initDataStore process = .ok ()) (builds : AddressBuilds process location.address)
    (transport : process.env.transportInit = .ok ()) :
    ∃ started, main process = .ok started ∧ started.listeners = true := by
  obtain ⟨sbc, handled, -⟩ := initHandler_asWritten file written loads
  have listeners : listenerConfig process = .ok _ :=
    listenerConfig_eq_ok.mpr ⟨options, _, _, _, _, _, file, written.listeners, nonempty, rfl⟩
  obtain ⟨handlers, sbc', handled', stack, -⟩ :=
    initHandler_spec file (newController_fresh process)
  rw [handled', EStateM.Result.ok.injEq] at handled
  obtain ⟨-, rfl⟩ := handled
  rcases initListeners_configOf stack (some location.publicAddress) location.address
    (some settings.ports.tcpListenerPort) (some settings.ports.baseTransportPort)
    (some settings.ports.maxTransportPort) with
    ⟨_, _, sbc, up, _⟩ | ⟨thrown, _, _, fails⟩
  · exact ⟨⟨sbc, handlers, true⟩,
      main_eq_ok.mpr ⟨logger, dataStore, _, _, handled', listeners, up⟩, rfl⟩
  · exact absurd transport (fails.not_up builds)

end Service

section Deployed

variable {T Dir : Type} [DecidableEq Dir] {config : SipxsbcConfig Location Dir ModelSettings}
  {location : Location}

open Handling

/-- **A deployed service routes for the domain of the installation.** If it runs and its
scripts load, it has the installed scripts and this domain; and requests that it routes with
its domain are sent there, or rejected if the domain is empty. -/
theorem deployed_service_routes {system : SystemFunctions} {reader : List String → ParseOutcome}
    {toAddresses : ToAddresses} (documented : Documented system config reader toAddresses)
    {run : AgentRun} {host : Host} {lines : List String}
    (out : RolledOut system config location run host lines)
    (address : config.getAddress location = some location.address)
    (external : config.getPublicAddress location = some location.publicAddress)
    (texts : PlainTexts location.address location.publicAddress run.vars) {process : Process}
    {path : String} (configured : configPath process = .ok path)
    (file : process.files path = reader lines)
    (loads : process.env.LoadsInstalled run.vars.confDir) {started : Started}
    (runs : main process = .ok started) {sip : SipHost T} (reads : sip.Reads)
    (setters : sip.SettersSucceed) (w : World T RouteScript) (handlings : List (Nat × Handling))
    (inForce : ∀ i d, (i, .routeRequest d) ∈ handlings → d = started.sbc.defaultTargetDomain) :
    Installed run.vars started.sbc ∧
      ∃ w', Handling.performAll sip handlings w = .ok () w' ∧
        ∀ i, HandledFor (cStr run.vars.domain) (own i handlings) (w.messages i) (w'.messages i) := by
  obtain ⟨options, file, written⟩ :=
    written_of_rolledOut documented out address external texts configured file
  obtain ⟨_, _, sbc, listeners, handled, _, up⟩ := main_eq_ok.mp runs
  obtain ⟨sbc', handled', installed⟩ := initHandler_asWritten file written loads
  rw [handled', EStateM.Result.ok.injEq] at handled
  obtain ⟨-, rfl⟩ := handled
  have keeps : Keeps (Installed run.vars) (SBController.initListeners process.env listeners) :=
    keeps_initListeners (fun _ _ held => ⟨held.1, held.2, held.3⟩) listeners
  have kept := keeps _ installed
  rw [up] at kept
  refine ⟨kept, ?_⟩
  obtain ⟨w', performed, _, messages⟩ := performAll_effects reads setters handlings w
  refine ⟨w', performed, ?_⟩
  intro i
  rw [messages i, Message.foldl_effect]
  apply Message.settled_handledFor
  intro d member
  exact (inForce i d (mem_own.mp member)).trans kept.domain

end Deployed

/-! ## The office, deployed -/

/-- The program that the agent starts, with a log file, where all scripts load. -/
def officeService : Process :=
  { officeProcess with
    service := .ofLists
      [("config-file", "/etc/sipxpbx/sipxsbc.ini"), ("log-file", "/var/log/sipxpbx/sipxsbc.log")] []
    env := { officeProcess.env with loadScript := fun _ _ _ _ => true } }

/-- A request that comes to the office is sent to its domain. -/
theorem deployed_service_routes_office :
    ∃ started w', main officeService = .ok started ∧
      Handling.performAll memoryHost
        [(0, .inboundRequest), (0, .routeRequest started.sbc.defaultTargetDomain)] referWorld =
          .ok () w' ∧
      (w'.messages 0).requestUri.hostPort = "example.org" := by
  have configured : configPath officeService = .ok "/etc/sipxpbx/sipxsbc.ini" := rfl
  have found : officeService.files "/etc/sipxpbx/sipxsbc.ini" =
      entryReader (Agent.sipxsbcIniContents officeRun) := rfl
  obtain ⟨options, file, written⟩ :=
    written_of_rolledOut office_documented office_rolledOut rfl rfl office_texts configured found
  have loads : officeService.env.LoadsInstalled officeRun.vars.confDir := fun _ _ => rfl
  obtain ⟨started, runs, -⟩ := main_asWritten file written (by decide) loads rfl rfl
    (fun _ => ⟨_, rfl⟩) rfl
  obtain ⟨_, w', performed, handled⟩ := deployed_service_routes office_documented
    office_rolledOut rfl rfl office_texts configured found loads runs memoryHost_reads
    memoryHost_settersSucceed referWorld
    [(0, .inboundRequest), (0, .routeRequest started.sbc.defaultTargetDomain)] (by simp)
  refine ⟨started, w', runs, performed, ?_⟩
  have domain : cStr officeRun.vars.domain = "example.org" := by decide
  have routed := (handled 0).routed (by rw [domain]; decide)
    ⟨_, Handling.mem_own.mpr (List.mem_cons_of_mem _ List.mem_cons_self)⟩
  rw [routed.1.requestUri, domain]

end SipXsbc
