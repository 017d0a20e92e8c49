import SipXsbc.Startup.Main

/-!
# When a running controller was set up completely

A controller that reaches `sbc.run()` should have its configuration parsed,
every script named in it loaded, the default handler registered and its
listeners up. Two things break that: the results of both initialisations are
dropped, and an exception while the options of the handlers are read is
swallowed. `failsClosed_iff` says exactly when nothing of this happens.
-/

namespace SipXsbc

open Reading Main

/-! ## Sequences of steps -/

section GetOption

variable {σ α β : Type} {current : σ → α} {assign : α → σ → σ} {s s' : σ}

theorem getOption_ok (option : Option α) :
    getOption (.ok option) current assign s = .ok () (assign (option.getD (current s)) s) := rfl

theorem getOption_error (thrown : Thrown) :
    getOption (.error thrown) current assign s = .error thrown s := rfl

/-- Reading that gets past an option has an answer for it. -/
theorem getOption_bind_ok {answer : Except Thrown (Option α)} {f : Unit → Reading σ β} {b : β}
    (ok : (getOption answer current assign >>= f) s = .ok b s') :
    ∃ option, answer = .ok option ∧ f () (assign (option.getD (current s)) s) = .ok b s' := by
  cases answer with
  | error thrown =>
      rw [bind_of_error (getOption_error thrown)] at ok
      cases ok
  | ok option =>
      rw [bind_of_ok (getOption_ok option)] at ok
      exact ⟨option, rfl, ok⟩

end GetOption

/-- Whether it throws or not, the reading keeps a property of what it fills in. -/
def Keeps {σ α : Type} (P : σ → Prop) (body : Reading σ α) : Prop :=
  ∀ s, P s → match body s with
    | .ok _ s' => P s'
    | .error _ s' => P s'

section Keeps

variable {σ α β : Type} {P : σ → Prop}

theorem Keeps.bind {body : Reading σ α} {f : α → Reading σ β} (first : Keeps P body)
    (rest : ∀ a, Keeps P (f a)) : Keeps P (body >>= f) := by
  intro s held
  have kept := first s held
  cases result : body s with
  | ok a s' =>
      rw [result] at kept
      rw [bind_of_ok result]
      exact rest a s' kept
  | error thrown s' =>
      rw [result] at kept
      rw [bind_of_error result]
      exact kept

theorem Keeps.ask (answer : Except Thrown α) : Keeps P (Reading.ask answer) := by
  intro s held
  cases answer with
  | ok a => exact held
  | error thrown => exact held

theorem Keeps.modify {f : σ → σ} (keeps : ∀ s, P s → P (f s)) :
    Keeps P (modify f : Reading σ Unit) := fun s held => keeps s held

theorem Keeps.getOption {answer : Except Thrown (Option α)} {current : σ → α} {assign : α → σ → σ}
    (keeps : ∀ a s, P s → P (assign a s)) : Keeps P (Reading.getOption answer current assign) :=
  (Keeps.ask answer).bind fun _ => Keeps.modify fun s held => keeps _ s held

theorem Keeps.swallow {body : Reading σ Unit} (keeps : Keeps P body) {s : σ} (held : P s) :
    P (Reading.swallow body s) := by
  have kept := keeps s held
  unfold Reading.swallow
  cases result : body s with
  | ok _ s' =>
      rw [result] at kept
      exact kept
  | error thrown s' =>
      rw [result] at kept
      exact kept

end Keeps

/-! ## Reading the listeners -/

/-- The five options of the listeners can be read. -/
structure ListenerOptions (options : ServiceOptions) (external address : Option String)
    (port base max : Option Int32) : Prop where
  external : options.text "external-address" = .ok external
  address : options.text "listener-address" = .ok address
  port : options.number "listener-port" = .ok port
  base : options.number "tcp-port-base" = .ok base
  max : options.number "tcp-port-max" = .ok max

/-- The configuration that main makes of the five options. -/
def configOf (external address : Option String) (port base max : Option Int32) : ListenerConfig :=
  let listener (proto : String) : ListenerInfo :=
    { address := address.getD "", externalAddress := external.getD "",
      port := unsignedShort (port.getD 5060), proto := proto }
  { tcpPortBase := unsignedShort (base.getD 30000)
    tcpPortMax := unsignedShort (max.getD 40000)
    listeners := [listener "udp", listener "tcp"] }

theorem readListeners_ok {options : ServiceOptions} {external address : Option String}
    {port base max : Option Int32} (read : ListenerOptions options external address port base max) :
    ∃ s, readListeners options {} = .ok () s ∧ s.listenerAddress = address.getD "" ∧
      s.config = configOf external address port base max := by
  unfold readListeners
  rw [read.external, read.address, read.port, read.base, read.max]
  rw [bind_of_ok (getOption_ok _), bind_of_ok (getOption_ok _), bind_of_ok (getOption_ok _),
    bind_of_ok (getOption_ok _), bind_of_ok (getOption_ok _)]
  exact ⟨_, rfl, rfl, rfl⟩

theorem readListeners_inv {options : ServiceOptions} {s : ListenerLocals}
    (ok : readListeners options {} = .ok () s) :
    ∃ external address port base max, ListenerOptions options external address port base max := by
  obtain ⟨external, external_, ok⟩ := getOption_bind_ok ok
  obtain ⟨address, address_, ok⟩ := getOption_bind_ok ok
  obtain ⟨port, port_, ok⟩ := getOption_bind_ok ok
  obtain ⟨base, base_, ok⟩ := getOption_bind_ok ok
  obtain ⟨max, max_, ok⟩ := getOption_bind_ok ok
  exact ⟨external, address, port, base, max, external_, address_, port_, base_, max_⟩

/-- The options that main reads are those of this file. -/
def ConfigFile (process : Process) (options : ServiceOptions) : Prop :=
  ∃ path, configPath process = .ok path ∧ process.files path = .parsed options

theorem readConfig_parsed {σ : Type} {process : Process} {options : ServiceOptions}
    (file : ConfigFile process options) (body : ServiceOptions → Reading σ Unit) (s : σ) :
    readConfig process body s = body options s := by
  obtain ⟨path, configured, parsed⟩ := file
  have asked : ask (configPath process) s = .ok path s := by
    rw [configured]
    rfl
  unfold readConfig
  rw [bind_of_ok asked, parsed]

/-- What is read is the file's options, or nothing. -/
theorem readConfig_inv {σ : Type} {process : Process} {body : ServiceOptions → Reading σ Unit}
    {s s' : σ} (ok : readConfig process body s = .ok () s') :
    (∃ options, ConfigFile process options ∧ body options s = .ok () s') ∨ s' = s := by
  unfold readConfig at ok
  cases configured : configPath process with
  | error thrown =>
      have asked : ask (configPath process) s = .error thrown s := by
        rw [configured]
        rfl
      rw [bind_of_error asked] at ok
      cases ok
  | ok path =>
      have asked : ask (configPath process) s = .ok path s := by
        rw [configured]
        rfl
      rw [bind_of_ok asked] at ok
      cases file : process.files path with
      | parsed options =>
          rw [file] at ok
          exact .inl ⟨options, ⟨path, configured, file⟩, ok⟩
      | unparsable =>
          rw [file] at ok
          cases ok
          exact .inr rfl
      | throws thrown =>
          rw [file] at ok
          cases ok

/-- The controller is given the listeners exactly when all options can be read
and there is a listener address. -/
theorem listenerConfig_eq_ok {process : Process} {config : ListenerConfig} :
    listenerConfig process = .ok config ↔
      ∃ options external address port base max, ConfigFile process options ∧
        ListenerOptions options external (some address) port base max ∧ address ≠ "" ∧
        config = configOf external (some address) port base max := by
  refine ⟨?_, ?_⟩
  · intro given
    unfold listenerConfig at given
    cases result : readConfig process readListeners {} with
    | error thrown s =>
        rw [result] at given
        cases given
    | ok _ s =>
        rw [result] at given
        dsimp only at given
        split at given
        · cases given
        · rename_i nonempty
          cases given
          rcases readConfig_inv result with ⟨options, file, read⟩ | same
          · obtain ⟨external, address, port, base, max, given⟩ := readListeners_inv read
            obtain ⟨s', read', address_, config_⟩ := readListeners_ok given
            rw [read] at read'
            cases read'
            cases address with
            | none => exact absurd (by rw [address_]; rfl) nonempty
            | some address =>
                refine ⟨options, external, address, port, base, max, file, given, ?_, config_⟩
                intro empty
                exact nonempty (by rw [address_, empty]; rfl)
          · exact absurd (by rw [same]; rfl) nonempty
  · intro conditions
    obtain ⟨options, external, address, port, base, max, file, given, nonempty, rfl⟩ := conditions
    obtain ⟨s, read, address_, config_⟩ := readListeners_ok given
    have result : readConfig process readListeners {} = .ok () s :=
      (readConfig_parsed file readListeners {}).trans read
    unfold listenerConfig
    rw [result]
    dsimp only
    rw [if_neg, config_]
    rw [address_]
    intro empty
    exact nonempty (String.isEmpty_iff.mp empty)

/-! ## Reading the scripts -/

/-- The option that names a script of each kind, for the four that have one. -/
@[simp] def ScriptKind.option : ScriptKind → Option String
  | .inboundRequest => some "inboundRequestScript"
  | .routeRequest => some "routeRequestScript"
  | .outboundRequest => some "outboundRequestScript"
  | .outboundResponse => some "outboundResponseScript"
  | .requestAuthenticator => none
  | .failoverRequest => none

/-- The file names a script of this kind. -/
def Names (options : ServiceOptions) (kind : ScriptKind) (script : String) : Prop :=
  script ≠ "" ∧ ∃ name, kind.option = some name ∧ options.text name = .ok (some script)

/-- The options that main reads for the handlers. -/
def handlerOptions : List String :=
  ["globalScriptsDirectory", "inboundRequestScript", "outboundRequestScript",
    "outboundResponseScript", "routeRequestScript", "target-domain"]

/-- None of them throws while it is read. -/
def HandlersRead (options : ServiceOptions) : Prop :=
  ∀ name ∈ handlerOptions, ∃ answer, options.text name = .ok answer

/-- The text of an option, empty where it is absent. -/
def ServiceOptions.textOf (options : ServiceOptions) (name : String) : String :=
  match options.text name with
  | .ok answer => answer.getD ""
  | .error _ => ""

/-- The handlers that main makes of the options. -/
def handlersOf (options : ServiceOptions) : HandlerConfig where
  globalScriptsDirectory := options.textOf "globalScriptsDirectory"
  inboundRequestScript := options.textOf "inboundRequestScript"
  outboundRequestScript := options.textOf "outboundRequestScript"
  outboundResponseScript := options.textOf "outboundResponseScript"
  routeRequestScript := options.textOf "routeRequestScript"

theorem readHandlers_ok {options : ServiceOptions} (read : HandlersRead options)
    (sbc : SBController) :
    ∃ sbc', readHandlers options ({}, sbc) = .ok () (handlersOf options, sbc') := by
  obtain ⟨directory, directory_⟩ := read "globalScriptsDirectory" (by decide)
  obtain ⟨inbound, inbound_⟩ := read "inboundRequestScript" (by decide)
  obtain ⟨outbound, outbound_⟩ := read "outboundRequestScript" (by decide)
  obtain ⟨response, response_⟩ := read "outboundResponseScript" (by decide)
  obtain ⟨route, route_⟩ := read "routeRequestScript" (by decide)
  obtain ⟨domain, domain_⟩ := read "target-domain" (by decide)
  have known : handlersOf options =
      { globalScriptsDirectory := directory.getD "", inboundRequestScript := inbound.getD "",
        outboundRequestScript := outbound.getD "", outboundResponseScript := response.getD "",
        routeRequestScript := route.getD "" } := by
    simp only [handlersOf, ServiceOptions.textOf, directory_, inbound_, outbound_, response_,
      route_]
  rw [known]
  unfold readHandlers
  rw [directory_, inbound_, outbound_, response_, route_, domain_]
  rw [bind_of_ok (getOption_ok _), bind_of_ok (getOption_ok _), bind_of_ok (getOption_ok _),
    bind_of_ok (getOption_ok _), bind_of_ok (getOption_ok _)]
  exact ⟨_, rfl⟩

theorem textOf_eq {options : ServiceOptions} {name script : String} (nonempty : script ≠ "") :
    options.textOf name = script ↔ options.text name = .ok (some script) := by
  have other : ¬ "" = script := Ne.symm nonempty
  unfold ServiceOptions.textOf
  rcases options.text name with thrown | _ | text
  · simp [other]
  · simp [other]
  · simp

/-- A script among the handlers is one that the file names. -/
theorem handlersOf_script (options : ServiceOptions) (kind : ScriptKind) {script : String}
    (nonempty : script ≠ "") :
    (handlersOf options).script kind = script ↔ Names options kind script := by
  have other : ¬ "" = script := Ne.symm nonempty
  cases kind <;> simp [Names, handlersOf, textOf_eq nonempty, nonempty, other]

theorem handlersOf_helper (options : ServiceOptions) (kind : ScriptKind) :
    (handlersOf options).helper kind = "" := by
  cases kind <;> rfl

/-- What the reading of the handlers leaves alone. -/
structure Unread (sbc : SBController) (s : HandlerConfig × SBController) : Prop where
  stack : s.2.stack = sbc.stack
  loaded : s.2.loaded = sbc.loaded
  registered : s.2.defaultHandlerRegistered = sbc.defaultHandlerRegistered

theorem readHandlers_unread (options : ServiceOptions) (sbc : SBController) :
    Unread sbc (swallow (readHandlers options) ({}, sbc)) := by
  have start : Unread sbc ({}, sbc) := ⟨rfl, rfl, rfl⟩
  refine Keeps.swallow ?_ start
  unfold readHandlers
  refine (Keeps.getOption ?_).bind fun _ => (Keeps.getOption ?_).bind fun _ =>
    (Keeps.getOption ?_).bind fun _ => (Keeps.getOption ?_).bind fun _ =>
    (Keeps.getOption ?_).bind fun _ => (Keeps.ask _).bind fun _ => Keeps.modify ?_
  · exact fun _ _ held => ⟨held.1, held.2, held.3⟩
  · exact fun _ _ held => ⟨held.1, held.2, held.3⟩
  · exact fun _ _ held => ⟨held.1, held.2, held.3⟩
  · exact fun _ _ held => ⟨held.1, held.2, held.3⟩
  · exact fun _ _ held => ⟨held.1, held.2, held.3⟩
  · exact fun _ held => ⟨held.1, held.2, held.3⟩

/-- Every script that the file names loads. -/
def ScriptsLoad (process : Process) (options : ServiceOptions) : Prop :=
  ∀ kind script, Names options kind script →
    process.env.loadScript kind script (options.textOf "globalScriptsDirectory") "" = true

section Scripts

variable {process : Process} {options : ServiceOptions} {sbc : SBController}

theorem passes_handlersOf :
    (∀ entry ∈ (handlersOf options).scripts, SBController.passes process.env
        (handlersOf options).globalScriptsDirectory entry = true) ↔
      ScriptsLoad process options := by
  refine ⟨?_, ?_⟩
  · intro all kind script names
    have here := (handlersOf_script options kind names.1).mpr names
    have passed := all (kind, script, "")
      (HandlerConfig.mem_scripts.mpr ⟨here, handlersOf_helper options kind⟩)
    unfold SBController.passes at passed
    rw [Bool.or_eq_true] at passed
    rcases passed with empty | loads
    · exact absurd (String.isEmpty_iff.mp empty) names.1
    · exact loads
  · intro loads entry member
    obtain ⟨kind, script, helper⟩ := entry
    obtain ⟨here, helper_⟩ := HandlerConfig.mem_scripts.mp member
    rw [handlersOf_helper] at helper_
    subst helper_
    unfold SBController.passes
    rw [Bool.or_eq_true]
    by_cases empty : script = ""
    · exact .inl (String.isEmpty_iff.mpr empty)
    · exact .inr (loads kind script ((handlersOf_script options kind empty).mp here))

theorem mem_named_handlersOf {kind : ScriptKind} {script : String} :
    (kind, script) ∈ SBController.named (handlersOf options).scripts ↔
      Names options kind script := by
  rw [SBController.mem_named]
  refine ⟨?_, ?_⟩
  · intro found
    obtain ⟨nonempty, helper, member⟩ := found
    exact (handlersOf_script options kind nonempty).mp (HandlerConfig.mem_scripts.mp member).1
  · intro names
    have here := (handlersOf_script options kind names.1).mpr names
    exact ⟨names.1, "", HandlerConfig.mem_scripts.mpr ⟨here, handlersOf_helper options kind⟩⟩

/-- Script set-up is the load of what was read, on a controller that is as
before but for its domain. -/
theorem initHandler_eq_loadAll (file : ConfigFile process options) :
    ∃ r, Unread sbc r ∧
      initHandler process sbc =
        SBController.loadAll process.env r.1.globalScriptsDirectory r.1.scripts r.2 ∧
      (HandlersRead options → r.1 = handlersOf options) := by
  refine ⟨_, readHandlers_unread options sbc, ?_, ?_⟩
  · have same : swallow (readConfig process readHandlers) (({} : HandlerConfig), sbc) =
        swallow (readHandlers options) ({}, sbc) := by
      unfold swallow
      rw [readConfig_parsed file]
    rw [← SBController.initHandler_eq, ← same]
    rfl
  · intro read
    obtain ⟨sbc', ok⟩ := readHandlers_ok read sbc
    unfold swallow
    rw [ok]

/-- Script set-up never throws and leaves the stack alone. Where the options of
the handlers are read, the default handler is registered and every script of the
file loaded exactly when all of them load. -/
theorem initHandler_spec (file : ConfigFile process options)
    (fresh : sbc.loaded = [] ∧ sbc.defaultHandlerRegistered = false) :
    ∃ handlers sbc', initHandler process sbc = .ok handlers sbc' ∧ sbc'.stack = sbc.stack ∧
      (HandlersRead options → ((sbc'.defaultHandlerRegistered = true ∧
          ∀ kind script, Names options kind script → (kind, script) ∈ sbc'.loaded) ↔
        ScriptsLoad process options)) := by
  obtain ⟨⟨config, sbc₁⟩, ⟨stack, loaded, registered⟩, run, known⟩ := initHandler_eq_loadAll file
  rw [run]
  by_cases all : ∀ entry ∈ config.scripts,
      SBController.passes process.env config.globalScriptsDirectory entry = true
  · refine ⟨_, _, SBController.loadAll_passes all sbc₁, stack, ?_⟩
    intro read
    obtain rfl := known read
    have none_ : sbc₁.loaded = [] := loaded.trans fresh.1
    simp only [SBController.registerDefaultHandler, none_, List.nil_append, true_and,
      mem_named_handlersOf]
    exact ⟨fun _ => passes_handlersOf.mp all, fun _ _ _ names => names⟩
  · have fails : ∃ entry ∈ config.scripts,
        SBController.passes process.env config.globalScriptsDirectory entry = false := by
      push Not at all
      obtain ⟨entry, member, failed⟩ := all
      exact ⟨entry, member, by simpa using failed⟩
    obtain ⟨sbc', stopped, registered', stack'⟩ := SBController.loadAll_fails fails sbc₁
    refine ⟨_, sbc', stopped, stack'.trans stack, ?_⟩
    intro read
    obtain rfl := known read
    refine ⟨?_, ?_⟩
    · intro complete
      have never : sbc₁.defaultHandlerRegistered = false := registered.trans fresh.2
      rw [registered', never] at complete
      cases complete.1
    · exact fun load => absurd (passes_handlersOf.mpr load) all

end Scripts

/-! ## Reaching `run` -/

/-- A listener is enabled on the stack. -/
def Stack.enabled (stack : Stack) : Bool := stack.enableUDP || stack.enableTCP

theorem adds_configOf {stack : Stack} {external : Option String} {address : String}
    {port base max : Option Int32} {iter : ListenerInfo}
    (member : iter ∈ (configOf external (some address) port base max).listeners)
    (adds : stack.adds iter = true) : stack.enabled = true ∧ iter.address = address := by
  have udp : toLower "udp" = "udp" := by decide
  have tcp : toLower "tcp" = "tcp" := by decide
  simp only [configOf, List.mem_cons, List.not_mem_nil, or_false] at member
  unfold Stack.enabled
  rcases member with rfl | rfl
  · simp [Stack.adds, udp] at adds
    simp [adds]
  · simp [Stack.adds, tcp] at adds
    simp [adds]

theorem exists_adds_configOf {stack : Stack} (external : Option String) (address : String)
    (port base max : Option Int32) (enabled : stack.enabled = true) :
    ∃ iter ∈ (configOf external (some address) port base max).listeners,
      stack.adds iter = true ∧ iter.address = address := by
  have udp : toLower "udp" = "udp" := by decide
  have tcp : toLower "tcp" = "tcp" := by decide
  unfold Stack.enabled at enabled
  rw [Bool.or_eq_true] at enabled
  rcases enabled with enableUDP | enableTCP
  · exact ⟨_, List.mem_cons_self, by simp [Stack.adds, udp, enableUDP], rfl⟩
  · exact ⟨_, List.mem_cons_of_mem _ List.mem_cons_self, by simp [Stack.adds, tcp, enableTCP], rfl⟩

/-- The listener address can be built if a listener is enabled. -/
def AddressBuilds (process : Process) (address : String) : Prop :=
  process.stack.enabled = true → ∃ ip, process.env.ipAddress address = .ok ip

/-- What listener set-up throws: the address cannot be built, or the transports cannot
be initialised. -/
def ListenersThrow (process : Process) (address : String) (thrown : Thrown) : Prop :=
  process.stack.enabled = true ∧ process.env.ipAddress address = .error thrown ∨
    AddressBuilds process address ∧ process.env.transportInit = .error thrown

theorem AddressBuilds.not_error {process : Process} {address : String} {thrown : Thrown}
    (builds : AddressBuilds process address) (enabled : process.stack.enabled = true) :
    process.env.ipAddress address ≠ .error thrown := by
  obtain ⟨ip, built⟩ := builds enabled
  rw [built]
  exact nofun

theorem ListenersThrow.not_up {process : Process} {address : String} {thrown : Thrown}
    (throws : ListenersThrow process address thrown) (builds : AddressBuilds process address) :
    process.env.transportInit ≠ .ok () := by
  rcases throws with ⟨enabled, fails⟩ | ⟨_, fails⟩
  · exact absurd fails (builds.not_error enabled)
  · rw [fails]
    exact nofun

theorem ListenersThrow.unique {process : Process} {address : String} {thrown thrown' : Thrown}
    (throws : ListenersThrow process address thrown)
    (throws' : ListenersThrow process address thrown') : thrown = thrown' := by
  rcases throws with ⟨enabled, fails⟩ | ⟨builds, fails⟩
  · rcases throws' with ⟨_, fails'⟩ | ⟨builds, _⟩
    · rw [fails] at fails'
      cases fails'
      rfl
    · exact absurd fails (builds.not_error enabled)
  · rcases throws' with ⟨enabled, fails'⟩ | ⟨_, fails'⟩
    · exact absurd fails' (builds.not_error enabled)
    · rw [fails] at fails'
      cases fails'
      rfl

/-- An exception that is not caught does not turn into an answer. -/
theorem not_other_of_caught {thrown : Thrown} {sbc sbc' : SBController} {ok : Bool}
    (caught : StartUp.caught thrown sbc = .ok ok sbc') : thrown ≠ .other := by
  rintro rfl
  cases caught

/-- What lets start-up come to `run`: the logger and the data store do not end
it, the listener options can be read and give an address, and no exception other
than a `std::exception` comes out of the transports. -/
structure ComesToRun (process : Process) (options : ServiceOptions) (address : String) : Prop where
  logger : initLogger process = .ok ()
  dataStore : initDataStore process = .ok ()
  file : ConfigFile process options
  listeners : ∃ external port base max,
    ListenerOptions options external (some address) port base max
  nonempty : address ≠ ""
  addressThrows : process.stack.enabled = true → process.env.ipAddress address ≠ .error .other
  transportThrows : AddressBuilds process address → process.env.transportInit ≠ .error .other

theorem ComesToRun.not_other {process : Process} {options : ServiceOptions} {address : String}
    (runs : ComesToRun process options address) : ¬ ListenersThrow process address .other := by
  intro fails
  rcases fails with ⟨enabled, throws⟩ | ⟨builds, throws⟩
  · exact runs.addressThrows enabled throws
  · exact runs.transportThrows builds throws

/-- Nothing that start-up goes on without has failed. -/
structure NothingFails (process : Process) (options : ServiceOptions) (address : String) :
    Prop where
  read : HandlersRead options
  scripts : ScriptsLoad process options
  address : AddressBuilds process address
  transport : process.env.transportInit = .ok ()

/-- What is to hold of a controller that runs: the configuration was parsed and none of
the options for the handlers threw, every script it names was loaded, the default handler
is registered, and `SBController::initListeners` returned true. -/
structure FailsClosed (process : Process) (started : Started) : Prop where
  scripts : ∃ options, ConfigFile process options ∧ HandlersRead options ∧
    ∀ kind script, Names options kind script → (kind, script) ∈ started.sbc.loaded
  handler : started.sbc.defaultHandlerRegistered = true
  listeners : started.listeners = true

theorem ConfigFile.unique {process : Process} {options options' : ServiceOptions}
    (file : ConfigFile process options) (file' : ConfigFile process options') :
    options = options' := by
  obtain ⟨path, configured, parsed⟩ := file
  obtain ⟨path', configured', parsed'⟩ := file'
  rw [configured] at configured'
  cases configured'
  rw [parsed] at parsed'
  cases parsed'
  rfl

theorem newController_fresh (process : Process) :
    (newController process).loaded = [] ∧
      (newController process).defaultHandlerRegistered = false := ⟨rfl, rfl⟩

/-- The stages of a start-up that comes to `run`. -/
theorem main_eq_ok {process : Process} {started : Started} :
    main process = .ok started ↔
      initLogger process = .ok () ∧ initDataStore process = .ok () ∧
        ∃ sbc config, initHandler process (newController process) = .ok started.handlers sbc ∧
          listenerConfig process = .ok config ∧
          SBController.initListeners process.env config sbc =
            .ok started.listeners started.sbc := by
  unfold main
  cases logger : initLogger process with
  | error halt => simp [bind, Except.bind]
  | ok _ =>
      cases dataStore : initDataStore process with
      | error thrown => simp [bind, Except.bind, orTerminate]
      | ok _ =>
          cases handler : initHandler process (newController process) with
          | error thrown sbc =>
              simp [bind, Except.bind, orTerminate, throw, throwThe, MonadExceptOf.throw]
          | ok handlers sbc =>
              cases given : listenerConfig process with
              | error halt => simp [bind, Except.bind, orTerminate]
              | ok config =>
                  cases result : SBController.initListeners process.env config sbc with
                  | error thrown sbc' =>
                      simp [bind, Except.bind, orTerminate, result, throw, throwThe,
                        MonadExceptOf.throw]
                  | ok listeners sbc' =>
                      obtain ⟨sbc'', handlers', listeners'⟩ := started
                      simp only [bind, Except.bind, orTerminate, result, pure, Except.pure,
                        Except.ok.injEq, Started.mk.injEq, EStateM.Result.ok.injEq, true_and]
                      refine ⟨?_, ?_⟩
                      · intro same
                        obtain ⟨rfl, rfl, rfl⟩ := same
                        exact ⟨sbc, config, ⟨rfl, rfl⟩, rfl, result⟩
                      · intro stages
                        obtain ⟨_, _, ⟨rfl, rfl⟩, rfl, same⟩ := stages
                        rw [result] at same
                        cases same
                        exact ⟨rfl, rfl, rfl⟩

/-- Listener set-up with main's two listeners: all comes up, or one of the two
things that can throw does. -/
theorem initListeners_configOf {process : Process} {sbc : SBController}
    (stack : sbc.stack = process.stack) (external : Option String) (address : String)
    (port base max : Option Int32) :
    let result := SBController.initListeners process.env
      (configOf external (some address) port base max) sbc
    (AddressBuilds process address ∧ process.env.transportInit = .ok () ∧
        ∃ sbc', result = .ok true sbc' ∧ sbc'.loaded = sbc.loaded ∧
          sbc'.defaultHandlerRegistered = sbc.defaultHandlerRegistered) ∨
      ∃ thrown sbc', result = StartUp.caught thrown sbc' ∧
        ListenersThrow process address thrown := by
  intro result
  have outcome := SBController.initListeners_outcome process.env
    (configOf external (some address) port base max) sbc
  have builds : (∀ iter ∈ (configOf external (some address) port base max).listeners,
      sbc.stack.adds iter = true → ∃ ip, process.env.ipAddress iter.address = .ok ip) →
      AddressBuilds process address := by
    intro all enabled
    obtain ⟨iter, member, adds, same⟩ := exists_adds_configOf external address port base max enabled
    rw [← same]
    exact all iter member (by rw [stack]; exact adds)
  change SBController.ListenersOutcome _ _ _ result at outcome
  generalize result = r at outcome
  cases outcome with
  | up all transport loaded registered range =>
      exact .inl ⟨builds all, transport, _, rfl, loaded, registered⟩
  | @addressFails iter thrown sbc' member adds fails =>
      rw [stack] at adds
      obtain ⟨enabled, same⟩ := adds_configOf member adds
      rw [same] at fails
      exact .inr ⟨thrown, sbc', rfl, .inl ⟨enabled, fails⟩⟩
  | @transportFails thrown sbc' all transport =>
      exact .inr ⟨thrown, sbc', rfl, .inr ⟨builds all, transport⟩⟩

/-- **Start-up fails closed exactly when nothing fails on the way to `run`.** -/
theorem failsClosed_iff (process : Process) :
    (∀ started, main process = .ok started → FailsClosed process started) ↔
      ∀ options address, ComesToRun process options address →
        NothingFails process options address := by
  refine ⟨?_, ?_⟩
  · intro closed options address runs
    obtain ⟨external, port, base, max, listeners⟩ := runs.listeners
    have given : listenerConfig process = .ok (configOf external (some address) port base max) :=
      listenerConfig_eq_ok.mpr ⟨options, external, address, port, base, max, runs.file, listeners,
        runs.nonempty, rfl⟩
    obtain ⟨handlers, sbc, handled, stack, complete⟩ :=
      initHandler_spec runs.file (newController_fresh process)
    have started : ∀ ok sbc', SBController.initListeners process.env
        (configOf external (some address) port base max) sbc = .ok ok sbc' →
        FailsClosed process ⟨sbc', handlers, ok⟩ := by
      intro ok sbc' up
      exact closed _ (main_eq_ok.mpr
        ⟨runs.logger, runs.dataStore, sbc, _, handled, given, up⟩)
    rcases initListeners_configOf stack external address port base max with
      ⟨builds, transport, sbc', up, loaded, registered⟩ | ⟨thrown, sbc', caught, fails⟩
    · have holds := started true sbc' up
      obtain ⟨options', file, read, scripts⟩ := holds.scripts
      obtain rfl := runs.file.unique file
      have handler : sbc.defaultHandlerRegistered = true := registered.symm.trans holds.handler
      refine ⟨read, (complete read).mp ⟨handler, ?_⟩, builds, transport⟩
      intro kind script names
      have reached := scripts kind script names
      rwa [loaded] at reached
    · -- the failure is caught and false is returned, and the controller runs
      cases thrown with
      | other => exact absurd fails runs.not_other
      | stdException => cases (started false sbc' caught).listeners
  · intro nothing started run
    obtain ⟨logger, dataStore, sbc, config, handled, given, up⟩ := main_eq_ok.mp run
    obtain ⟨running, handlers₀, ok⟩ := started
    obtain ⟨options, external, address, port, base, max, file, listeners, nonempty, rfl⟩ :=
      listenerConfig_eq_ok.mp given
    obtain ⟨handlers, sbc₁, handled', stack, complete⟩ :=
      initHandler_spec file (newController_fresh process)
    rw [handled] at handled'
    cases handled'
    have outcome := initListeners_configOf stack external address port base max
    rw [up] at outcome
    have never : ¬ ListenersThrow process address .other := by
      intro throws
      rcases outcome with ⟨builds, transport, _⟩ | ⟨thrown, sbc', caught, fails⟩
      · exact throws.not_up builds transport
      · exact not_other_of_caught caught.symm (fails.unique throws)
    have runs : ComesToRun process options address :=
      ⟨logger, dataStore, file, ⟨external, port, base, max, listeners⟩, nonempty,
        fun enabled throws => never (.inl ⟨enabled, throws⟩),
        fun builds throws => never (.inr ⟨builds, throws⟩)⟩
    obtain ⟨read, scripts, builds, transport⟩ := nothing options address runs
    rcases outcome with ⟨_, _, sbc', same, loaded, registered⟩ | ⟨thrown, sbc', _, fails⟩
    · cases same
      obtain ⟨handler, all⟩ := (complete read).mpr scripts
      refine ⟨⟨options, file, read, fun kind script names => ?_⟩, registered.trans handler, rfl⟩
      rw [loaded]
      exact all kind script names
    · exact absurd transport (fails.not_up builds)

/-- Options that are given by lists and never throw. -/
def ServiceOptions.ofLists (texts : List (String × String)) (numbers : List (String × Int32)) :
    ServiceOptions where
  hasOption name _ := .ok ((texts.lookup name).isSome || (numbers.lookup name).isSome)
  text name := .ok (texts.lookup name)
  number name := .ok (numbers.lookup name)

/-- A program whose routing script does not load. -/
def routeScriptBroken : Process where
  confDir := "/etc/sipxpbx"
  service := .ofLists [("log-file", "/var/log/sipxsbc.log")] []
  files path :=
    if path = "/etc/sipxpbx/sipxsbc.ini" then
      .parsed (.ofLists [("listener-address", "192.0.2.1"), ("routeRequestScript", "route.js")] [])
    else .unparsable
  loggerInit _ := .ok ()
  dataStoreInit _ := .ok ()
  stack := ⟨true, true, [], [], ⟨"", "", 0⟩, (0, 0)⟩
  env :=
    { ipAddress := fun address => .ok ⟨address, "", 0⟩
      transportInit := .ok ()
      loadScript := fun _ _ _ _ => false }

/-- It runs all the same, without a default handler. -/
theorem failsClosed_fails :
    ¬ ∀ started, main routeScriptBroken = .ok started → FailsClosed routeScriptBroken started := by
  intro closed
  have runs : main routeScriptBroken = .ok
      ⟨⟨⟨true, true, [⟨"192.0.2.1", "", 5060⟩], [⟨"192.0.2.1", "", 5060⟩],
        ⟨"192.0.2.1", "", 5060⟩, (30000, 40000)⟩, [], false, ""⟩, some false, true⟩ := rfl
  cases (closed _ runs).handler

end SipXsbc
