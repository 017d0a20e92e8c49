import SipXsbc.Config.Replication
import SipXsbc.Config.Agent
import SipXsbc.Startup.Ports
import SipXsbc.Keyed.KeyValueText

/-!
# From the settings to the running service

The settings reach the controller in four steps: `replicate` writes them to the part file of
a location, the agent there puts the part file and its own lines into `sipxsbc.ini`, the
service is started on that file, and main reads its options. Each step is a module of its
own; here they are put together (`runs_as_configured`): the text that is written is read
back line by line and option by option.

What `KeyValueConfiguration` writes and `ServiceOptions` reads are the assumptions
`EqualsSeparated` and `ReadsEntries`.
-/

namespace SipXsbc

open Keyed Main Reading

/-- The settings of `sipxsbc.xml`. -/
structure ModelSettings where
  ports : SipxsbcSettings
  logLevel : Int32

/-- Their names and values, in the order of the file. -/
def ModelSettings.entries (settings : ModelSettings) : List Entry :=
  [("listener-port", toString settings.ports.tcpListenerPort.toInt),
    ("tcp-port-base", toString settings.ports.baseTransportPort.toInt),
    ("tcp-port-max", toString settings.ports.maxTransportPort.toInt),
    ("log-level", toString settings.logLevel.toInt)]

/-- One line `key=value` for each key and setting. -/
structure EqualsSeparated (config : KeyValueConfiguration ModelSettings) : Prop where
  write : ∀ key value, (config.write key (some value)).flatten = renderEntries [(key, value)]
  writeSettings : ∀ settings,
    (config.writeSettings settings).flatten = renderEntries settings.entries

/-- The options are these entries. -/
structure Answers (options : ServiceOptions) (entries : List Entry) : Prop where
  text : ∀ name, options.text name = .ok (entries.lookup name)
  number : ∀ name (n : Int32), entries.lookup name = some (toString n.toInt) →
    options.number name = .ok (some n)

/-- Without blanks, line breaks and the sign of a comment. -/
def PlainValue (value : String) : Prop := ∀ c ∈ value.toList, c.isWhitespace = false ∧ c ≠ '#'

def PlainName (name : String) : Prop := ∀ c ∈ name.toList, c.isAlphanum = true ∨ c = '-'

/-- Nothing in the entry has a meaning of its own in a file of options. -/
structure Plain (e : Entry) : Prop where
  name : PlainName e.1
  value : PlainValue e.2

/-- A file of plain lines with different names is read as its entries. -/
def ReadsEntries (reader : List String → ParseOutcome) : Prop :=
  ∀ entries : List Entry, (∀ e ∈ entries, Plain e) → (entries.map Prod.fst).Nodup →
    ∃ options, reader (entries.map entryText) = .parsed options ∧ Answers options entries

/-! ## The entries of a location -/

/-- The entries of the lines that the agent adds. -/
def agentEntries (vars : SipxVars) : List Entry :=
  [("target-domain", vars.domain),
    ("globalScriptsDirectory", vars.confDir ++ "/sipxsbc/globals"),
    ("inboundRequestScript", vars.confDir ++ "/sipxsbc/handlers/inboundRequest.js"),
    ("outboundRequestScript", vars.confDir ++ "/sipxsbc/handlers/outboundRequest.js"),
    ("outboundResponseScript", vars.confDir ++ "/sipxsbc/handlers/outboundResponse.js"),
    ("routeRequestScript", vars.confDir ++ "/sipxsbc/handlers/routeRequest.js")]

theorem ownLines_eq (vars : SipxVars) :
    Agent.ownLines vars = (agentEntries vars).map entryText := by
  have key : ∀ name value : String, name ++ "=" ++ value = entryText (name, value) :=
    fun _ _ => rfl
  simp only [Agent.ownLines, agentEntries, List.map_cons, List.map_nil, String.append_assoc,
    ← key]
  rfl

/-- The entries of the part file. -/
def partEntries (address external : String) (settings : ModelSettings) : List Entry :=
  [("listener-address", address), ("external-address", external)] ++ settings.entries

/-- All entries of `sipxsbc.ini`. -/
def deployedEntries (address external : String) (settings : ModelSettings) (vars : SipxVars) :
    List Entry :=
  partEntries address external settings ++ agentEntries vars

/-! ## Plain entries -/

theorem PlainValue.append {value value' : String} (plain : PlainValue value)
    (plain' : PlainValue value') : PlainValue (value ++ value') := by
  intro c member
  rw [String.toList_append] at member
  rcases List.mem_append.mp member with first | second
  · exact plain c first
  · exact plain' c second

theorem plainValue_of_all {value : String}
    (all : value.toList.all (fun c => !c.isWhitespace && c != '#') = true) : PlainValue value := by
  intro c member
  have checked := List.all_eq_true.mp all c member
  rw [Bool.and_eq_true, Bool.not_eq_true', bne_iff_ne] at checked
  exact checked

theorem plainName_of_all {name : String}
    (all : name.toList.all (fun c => c.isAlphanum || c == '-') = true) : PlainName name := by
  intro c member
  have checked := List.all_eq_true.mp all c member
  rwa [Bool.or_eq_true, beq_iff_eq] at checked

theorem plain_of_isDigit {c : Char} (digit : c.isDigit = true) :
    c.isWhitespace = false ∧ c ≠ '#' := by
  simp only [Char.isDigit, Bool.and_eq_true, decide_eq_true_eq] at digit
  refine ⟨?_, ?_⟩
  · simp only [Char.isWhitespace, Bool.or_eq_false_iff, decide_eq_false_iff_not]
    refine ⟨⟨⟨?_, ?_⟩, ?_⟩, ?_⟩ <;>
      (intro same; rw [same] at digit; revert digit; decide)
  · intro same
    rw [same] at digit
    revert digit
    decide

theorem plainValue_nat (n : Nat) : PlainValue (toString n) := by
  intro c member
  have digits : toString n = String.ofList (Nat.toDigits 10 n) := rfl
  rw [digits, String.toList_ofList] at member
  exact plain_of_isDigit (Nat.isDigit_of_mem_toDigits (by omega) (by omega) member)

theorem plainValue_int (n : Int) : PlainValue (toString n) := by
  cases n with
  | ofNat m => exact plainValue_nat m
  | negSucc m =>
    have sign : PlainValue "-" := by
      intro c member
      have same : c = '-' := List.mem_singleton.mp member
      rw [same]
      decide
    exact sign.append (plainValue_nat (m + 1))

theorem Plain.separable {e : Entry} (plain : Plain e) : e.Separable where
  key := by
    refine ⟨?_, ?_⟩
    · intro member
      have named := plain.name _ member
      revert named
      decide
    · intro member
      have named := plain.name _ member
      revert named
      decide
  value member := by
    have valued := plain.value _ member
    revert valued
    decide

section Entries

variable {address external : String} {settings : ModelSettings} {vars : SipxVars}

theorem map_fst_deployedEntries :
    (deployedEntries address external settings vars).map Prod.fst =
      ["listener-address", "external-address", "listener-port", "tcp-port-base", "tcp-port-max",
        "log-level", "target-domain", "globalScriptsDirectory", "inboundRequestScript",
        "outboundRequestScript", "outboundResponseScript", "routeRequestScript"] := rfl

theorem deployedEntries_distinct :
    ((deployedEntries address external settings vars).map Prod.fst).Nodup := by
  rw [map_fst_deployedEntries]
  decide

/-- Texts that come from outside are plain. -/
structure PlainTexts (address external : String) (vars : SipxVars) : Prop where
  address : PlainValue address
  external : PlainValue external
  domain : PlainValue vars.domain
  confDir : PlainValue vars.confDir

theorem deployedNames_plain (name : String)
    (named : name ∈ ["listener-address", "external-address", "listener-port", "tcp-port-base",
      "tcp-port-max", "log-level", "target-domain", "globalScriptsDirectory",
      "inboundRequestScript", "outboundRequestScript", "outboundResponseScript",
      "routeRequestScript"]) : PlainName name := by
  apply plainName_of_all
  simp only [List.mem_cons, List.not_mem_nil, or_false] at named
  rcases named with rfl | rfl | rfl | rfl | rfl | rfl | rfl | rfl | rfl | rfl | rfl | rfl <;> rfl

theorem deployedEntries_plain (texts : PlainTexts address external vars) :
    ∀ e ∈ deployedEntries address external settings vars, Plain e := by
  intro e member
  have named : e.1 ∈ (deployedEntries address external settings vars).map Prod.fst :=
    List.mem_map_of_mem member
  rw [map_fst_deployedEntries] at named
  refine ⟨deployedNames_plain _ named, ?_⟩
  simp only [deployedEntries, partEntries, ModelSettings.entries, agentEntries, List.cons_append,
    List.nil_append, List.mem_cons, List.not_mem_nil, or_false] at member
  rcases member with rfl | rfl | rfl | rfl | rfl | rfl | rfl | rfl | rfl | rfl | rfl | rfl
  · exact texts.address
  · exact texts.external
  · exact plainValue_int _
  · exact plainValue_int _
  · exact plainValue_int _
  · exact plainValue_int _
  · exact texts.domain
  all_goals exact texts.confDir.append (plainValue_of_all rfl)

end Entries

/-! ## The file that the agent writes -/

/-- What the agent finds of a part file. -/
def linesOfPart (part : Option (List Char)) : Option (List String) :=
  part.map fun text => (linesOf text).map String.ofList

theorem insertLines_of_nodup {lines new : List String} (nodup : (lines ++ new).Nodup) :
    Agent.insertLines lines new = lines ++ new := by
  induction new generalizing lines with
  | nil => exact (List.append_nil lines).symm
  | cons line new ih =>
    rw [List.append_cons] at nodup ⊢
    have fresh : line ∉ lines := by
      have first := (List.nodup_append.mp nodup).1
      intro member
      exact (List.nodup_append.mp first).2.2 line member line List.mem_cons_self rfl
    have next : Agent.insertLines lines (line :: new) =
        Agent.insertLines (if line ∈ lines then lines else lines ++ [line]) new := rfl
    rw [next, if_neg fresh, ih nodup]

/-- The lines of a rendered part file are those of its entries. -/
theorem linesOfPart_renderEntries {es : List Entry} (separable : ∀ e ∈ es, e.Separable) :
    linesOfPart (some (renderEntries es)) = some (es.map entryText) := by
  have texts : ∀ e ∈ es, String.ofList (entryText e).toList = entryText e :=
    fun e _ => String.ofList_toList
  rw [linesOfPart, Option.map_some, linesOf_renderEntries separable, List.map_map]
  exact congrArg some (List.map_congr_left texts)

theorem sipxsbcIniContents_eq {address external : String} {settings : ModelSettings}
    {run : AgentRun} (texts : PlainTexts address external run.vars)
    (part : run.part = some ((partEntries address external settings).map entryText)) :
    Agent.sipxsbcIniContents run =
      (deployedEntries address external settings run.vars).map entryText := by
  have separable : ∀ e ∈ deployedEntries address external settings run.vars, e.Separable :=
    fun e member => (deployedEntries_plain texts e member).separable
  have nodup := nodup_lines separable deployedEntries_distinct
  have lines : run.part.getD [] ++ Agent.ownLines run.vars =
      (deployedEntries address external settings run.vars).map entryText := by
    rw [part, Option.getD_some, ownLines_eq, ← List.map_append]
    rfl
  rw [Agent.sipxsbcIniContents, lines, insertLines_of_nodup nodup, List.nil_append]

/-! ## The chain -/

/-- The handler configuration that names the installed scripts. -/
def installedHandlers (confDir : String) : HandlerConfig where
  globalScriptsDirectory := confDir ++ "/sipxsbc/globals"
  inboundRequestScript := confDir ++ "/sipxsbc/handlers/inboundRequest.js"
  outboundRequestScript := confDir ++ "/sipxsbc/handlers/outboundRequest.js"
  outboundResponseScript := confDir ++ "/sipxsbc/handlers/outboundResponse.js"
  routeRequestScript := confDir ++ "/sipxsbc/handlers/routeRequest.js"

/-- What main makes of the configuration of a location: the listeners with its addresses
and the ports of the settings, the installed scripts and the domain; and if the ports fit,
they are those published for the location. -/
structure RunsAsConfigured (toAddresses : ToAddresses) (settings : ModelSettings)
    (location : Location) (vars : SipxVars) (process : Process) : Prop where
  listeners : listenerConfig process = .ok
    (configOf (some location.publicAddress) (some location.address)
      (some settings.ports.tcpListenerPort) (some settings.ports.baseTransportPort)
      (some settings.ports.maxTransportPort))
  handlers : swallow (readConfig process readHandlers) ({}, newController process) =
    (installedHandlers vars.confDir,
      { newController process with defaultTargetDomain := vars.domain })
  published : PortsFit settings.ports → ∀ locations config,
    listenerConfig process = .ok config →
      PortsSurvive toAddresses settings.ports locations process.env config

section Chain

variable {Dir : Type} {config : SipxsbcConfig Location Dir ModelSettings} {location : Location}

/-- The part file of a location with both addresses. -/
theorem partText_eq (writes : EqualsSeparated config.equalsSeparated)
    (address : config.getAddress location = some location.address)
    (external : config.getPublicAddress location = some location.publicAddress) :
    config.partText location =
      renderEntries (partEntries location.address location.publicAddress config.settings) := by
  have split : renderEntries (partEntries location.address location.publicAddress config.settings) =
      renderEntries [("listener-address", location.address)] ++
        renderEntries [("external-address", location.publicAddress)] ++
          renderEntries config.settings.entries := by
    simp only [renderEntries, partEntries, List.flatMap_append, List.flatMap_cons,
      List.flatMap_nil, List.append_nil]
  rw [SipxsbcConfig.partText, SipxsbcConfig.partWrites, address, external, List.flatten_append,
    List.flatten_append, writes.write, writes.write, writes.writeSettings, split]

variable [DecidableEq Dir]

/-- A replication that returned has written a location with the feature, whole, the agent
there has run on what it found, and the service runs on these lines. -/
structure RolledOut (system : SystemFunctions) (config : SipxsbcConfig Location Dir ModelSettings)
    (location : Location) (run : AgentRun) (host : Host) (lines : List String) : Prop where
  replicated : ∃ request, ∃ iteration : IterationOrder request.locations, ∃ dirs dirs',
    request.applies SIPXSBC_FEATURE = true ∧ location ∈ request.locations ∧
      config.replicate request iteration dirs = .ok () dirs' ∧
      run.classes.sipxsbc = config.utils.classIn
        (dirs' (config.manager.getLocationDataDirectory location)) "sipxsbc.cfdat" "sipxsbc" ∧
      run.part = linesOfPart
        (dirs' (config.manager.getLocationDataDirectory location) "sipxsbc.ini.part")
  enabled : config.enabled location = true
  whole : config.ClosesWhole location
  fresh : host.Fresh
  kills : ¬ run.Overtakes host
  running : (Agent.sipxsbc system run host).service = some lines

/-- What is documented of the code that the chain passes through. -/
structure Documented (system : SystemFunctions) (config : SipxsbcConfig Location Dir ModelSettings)
    (reader : List String → ParseOutcome) (toAddresses : ToAddresses) : Prop where
  functions : system.Documented
  directories : Function.Injective config.manager.getLocationDataDirectory
  setsClass : config.utils.SetsClass
  writes : EqualsSeparated config.equalsSeparated
  reads : ReadsEntries reader
  toAddresses : toAddresses.Documented

/-- The service that the agent leaves running has read the entries of the location. -/
theorem lines_of_rolledOut {system : SystemFunctions} {reader : List String → ParseOutcome}
    {toAddresses : ToAddresses} (documented : Documented system config reader toAddresses)
    {run : AgentRun} {host : Host} {lines : List String}
    (out : RolledOut system config location run host lines)
    (address : config.getAddress location = some location.address)
    (external : config.getPublicAddress location = some location.publicAddress)
    (texts : PlainTexts location.address location.publicAddress run.vars) :
    lines = (deployedEntries location.address location.publicAddress config.settings
      run.vars).map entryText := by
  obtain ⟨request, iteration, dirs, dirs', applies, member, returned, class_, part⟩ := out.replicated
  obtain ⟨_, configured⟩ :=
    SipxsbcConfig.configured_of_replicate documented.directories documented.setsClass applies
      returned member
  have on : run.classes.sipxsbc = true := by
    rw [class_, configured.class_eq, out.enabled]
  have separable : ∀ e ∈ partEntries location.address location.publicAddress config.settings,
      e.Separable := by
    intro e entry
    exact (deployedEntries_plain texts e (List.mem_append_left _ entry)).separable
  rw [(configured.part_iff out.enabled).mpr out.whole, partText_eq documented.writes address external,
    linesOfPart_renderEntries separable] at part
  -- a service that is running has read the file, and the agent has just written it
  have read := (fresh_agent_iff documented.functions out.fresh).mpr out.kills lines out.running
  rw [AgentRun.ini_after documented.functions, AgentRun.iniAfter, on, if_pos rfl,
    sipxsbcIniContents_eq texts part] at read
  exact (Option.some.inj read).symm

/-- The options that main asks for, as they were written. -/
structure AsWritten (settings : ModelSettings) (location : Location) (vars : SipxVars)
    (options : ServiceOptions) : Prop where
  listeners : ListenerOptions options (some location.publicAddress) (some location.address)
    (some settings.ports.tcpListenerPort) (some settings.ports.baseTransportPort)
    (some settings.ports.maxTransportPort)
  globals : options.text "globalScriptsDirectory" = .ok (some (vars.confDir ++ "/sipxsbc/globals"))
  inbound : options.text "inboundRequestScript" =
    .ok (some (vars.confDir ++ "/sipxsbc/handlers/inboundRequest.js"))
  outbound : options.text "outboundRequestScript" =
    .ok (some (vars.confDir ++ "/sipxsbc/handlers/outboundRequest.js"))
  response : options.text "outboundResponseScript" =
    .ok (some (vars.confDir ++ "/sipxsbc/handlers/outboundResponse.js"))
  route : options.text "routeRequestScript" =
    .ok (some (vars.confDir ++ "/sipxsbc/handlers/routeRequest.js"))
  domain : options.text "target-domain" = .ok (some vars.domain)

omit [DecidableEq Dir] in
theorem Answers.asWritten {options : ServiceOptions} {settings : ModelSettings} {vars : SipxVars}
    (answers : Answers options
      (deployedEntries location.address location.publicAddress settings vars)) :
    AsWritten settings location vars options where
  listeners := ⟨answers.text _, answers.text _, answers.number _ _ rfl, answers.number _ _ rfl,
    answers.number _ _ rfl⟩
  globals := answers.text _
  inbound := answers.text _
  outbound := answers.text _
  response := answers.text _
  route := answers.text _
  domain := answers.text _

omit [DecidableEq Dir] in
theorem readHandlers_asWritten {options : ServiceOptions} {settings : ModelSettings}
    {vars : SipxVars} (written : AsWritten settings location vars options) (sbc : SBController) :
    readHandlers options ({}, sbc) = .ok ()
      (installedHandlers vars.confDir, { sbc with defaultTargetDomain := vars.domain }) := by
  unfold readHandlers
  rw [written.globals, written.inbound, written.outbound, written.response, written.route,
    written.domain, bind_of_ok (getOption_ok _), bind_of_ok (getOption_ok _),
    bind_of_ok (getOption_ok _), bind_of_ok (getOption_ok _), bind_of_ok (getOption_ok _)]
  rfl

omit [DecidableEq Dir] in
theorem read_asWritten {process : Process} {options : ServiceOptions} {settings : ModelSettings}
    {vars : SipxVars} (file : ConfigFile process options)
    (written : AsWritten settings location vars options) :
    swallow (readConfig process readHandlers) ({}, newController process) =
      (installedHandlers vars.confDir,
        { newController process with defaultTargetDomain := vars.domain }) := by
  unfold swallow
  rw [readConfig_parsed file, readHandlers_asWritten written]

/-- A process that is started on the deployed file reads what was written. -/
theorem written_of_rolledOut {system : SystemFunctions} {reader : List String → ParseOutcome}
    {toAddresses : ToAddresses} (documented : Documented system config reader toAddresses)
    {run : AgentRun} {host : Host} {lines : List String}
    (out : RolledOut system config location run host lines)
    (address : config.getAddress location = some location.address)
    (external : config.getPublicAddress location = some location.publicAddress)
    (texts : PlainTexts location.address location.publicAddress run.vars) {process : Process}
    {path : String} (configured : configPath process = .ok path)
    (started : process.files path = reader lines) :
    ∃ options, ConfigFile process options ∧
      AsWritten config.settings location run.vars options := by
  have wrote := lines_of_rolledOut documented out address external texts
  obtain ⟨options, parsed, answers⟩ :=
    documented.reads _ (deployedEntries_plain texts) deployedEntries_distinct
  refine ⟨options, ⟨path, configured, ?_⟩, answers.asWritten⟩
  rw [started, wrote, parsed]

omit [DecidableEq Dir] in
theorem runsAsConfigured_of_asWritten {toAddresses : ToAddresses}
    (documented : toAddresses.Documented) {settings : ModelSettings} {vars : SipxVars}
    {process : Process} {options : ServiceOptions} (file : ConfigFile process options)
    (written : AsWritten settings location vars options) (nonempty : location.address ≠ "") :
    RunsAsConfigured toAddresses settings location vars process := by
  have listeners : listenerConfig process = .ok _ :=
    listenerConfig_eq_ok.mpr ⟨options, _, _, _, _, _, file, written.listeners, nonempty, rfl⟩
  refine ⟨listeners, read_asWritten file written, ?_⟩
  intro fit locations config' given
  rw [listeners] at given
  cases given
  exact (portsSurvive_configOf_iff documented process.env _ _).mpr fit

/-- **The service runs as configured.** From the settings of the administration server to the
listeners and scripts of a running service. -/
theorem runs_as_configured {system : SystemFunctions} {reader : List String → ParseOutcome}
    {toAddresses : ToAddresses} (documented : Documented system config reader toAddresses)
    {run : AgentRun} {host : Host} {lines : List String}
    (out : RolledOut system config location run host lines)
    (address : config.getAddress location = some location.address)
    (nonempty : location.address ≠ "")
    (external : config.getPublicAddress location = some location.publicAddress)
    (texts : PlainTexts location.address location.publicAddress run.vars) {process : Process}
    {path : String} (configured : configPath process = .ok path)
    (started : process.files path = reader lines) :
    RunsAsConfigured toAddresses config.settings location run.vars process := by
  obtain ⟨options, file, written⟩ :=
    written_of_rolledOut documented out address external texts configured started
  exact runsAsConfigured_of_asWritten documented.toAddresses file written nonempty

end Chain

/-! ## One location with the default settings -/

section Office

def office : Location := ⟨"10.1.1.5", "47.135.162.72"⟩

def entryConfiguration : KeyValueConfiguration ModelSettings where
  write key value := [renderEntries [(key, value.getD "")]]
  writeSettings settings := [renderEntries settings.entries]

/-- Every location has the feature and a directory of its own. -/
def officeConfig : SipxsbcConfig Location Location ModelSettings where
  manager := ⟨fun location => location, fun _ _ => true⟩
  getAddress location := some location.address
  getPublicAddress location := some location.publicAddress
  utils := SipxsbcConfig.lineUtils
  equalsSeparated := entryConfiguration
  settings := ⟨⟨5060, 30000, 40000⟩, 5⟩
  io _ := ⟨true, fun _ => .taken 0, none⟩

/-- A number in decimal. -/
def decimal (value : String) : Int :=
  match value.toList with
  | '-' :: digits => -Nat.ofDigitChars 10 digits 0
  | digits => Nat.ofDigitChars 10 digits 0

theorem decimal_toString (n : Int) : decimal (toString n) = n := by
  unfold decimal
  cases n with
  | ofNat m =>
    have digits : (toString (Int.ofNat m)).toList = Nat.toDigits 10 m := String.toList_ofList
    rw [digits]
    split
    · rename_i rest negative
      have minus : '-' ∈ Nat.toDigits 10 m := by rw [negative]; exact List.mem_cons_self
      exact absurd (Nat.isDigit_of_mem_toDigits (by omega) (by omega) minus) (by decide)
    · rw [Nat.ofDigitChars_toDigits (by omega) (by omega)]
      rfl
  | negSucc m =>
    have digits : (toString (Int.negSucc m)).toList = '-' :: Nat.toDigits 10 (m + 1) := by
      have sign : toString (Int.negSucc m) = "-" ++ String.ofList (Nat.toDigits 10 (m + 1)) := rfl
      rw [sign, String.toList_append]
      exact congrArg ('-' :: ·) String.toList_ofList
    rw [digits]
    simp only [Nat.ofDigitChars_toDigits (show 1 < 10 by omega) (show 10 ≤ 10 by omega)]
    rfl

/-- Each line is cut at its first `=`. -/
def entryReader (lines : List String) : ParseOutcome :=
  .parsed {
    hasOption := fun name _ => .ok ((lines.map entryOf).lookup name).isSome
    text := fun name => .ok ((lines.map entryOf).lookup name)
    number := fun name =>
      .ok (((lines.map entryOf).lookup name).map fun value => Int32.ofInt (decimal value)) }

theorem entryReader_readsEntries : ReadsEntries entryReader := by
  intro entries plain _
  have read : (entries.map entryText).map entryOf = entries := by
    rw [List.map_map]
    refine (List.map_congr_left ?_).trans (List.map_id entries)
    exact fun e member => entryOf_entryText (plain e member).separable
  refine ⟨_, rfl, ?_, ?_⟩
  · intro name
    simp only [read]
  · intro name n found
    simp only [read, found, Option.map_some, decimal_toString, Int32.ofInt_toInt]

/-- The agent finds what `officeConfig` writes for the office. -/
def officeRun : AgentRun where
  vars := ⟨"/etc/sipxpbx", "example.org"⟩
  classes := ⟨true, false, false⟩
  part := linesOfPart (some (officeConfig.partText office))
  modeRepaired := false
  calls _ := ⟨true, true, true, true, true⟩

/-- The program that the agent starts. -/
def officeProcess : Process :=
  { routeScriptBroken with
    service := .ofLists [("config-file", "/etc/sipxpbx/sipxsbc.ini")] []
    files := fun _ => entryReader (Agent.sipxsbcIniContents officeRun) }

theorem office_documented : Documented plainFunctions officeConfig entryReader
    (fun type locations port => locations.map fun location => ⟨type, location.address, port, none⟩)
    where
  functions := plainFunctions_documented
  directories _ _ same := same
  setsClass := SipxsbcConfig.lineUtils_setsClass
  writes := ⟨fun _ _ => List.append_nil _, fun _ => List.append_nil _⟩
  reads := entryReader_readsEntries
  toAddresses _ _ _ := rfl

theorem office_rolledOut : RolledOut plainFunctions officeConfig office officeRun ⟨none, none⟩
    (Agent.sipxsbcIniContents officeRun) where
  replicated := by
    let request : ConfigRequest Location := ⟨fun _ => true, {office}⟩
    let iteration : IterationOrder request.locations := ⟨[office], rfl⟩
    have none : ∀ location ∈ request.locations,
        ¬ officeConfig.Throws location (fun _ => none) := by
      intro location _ throws
      rcases throws with ⟨exception, folder', threw⟩ | ⟨_, closed | ⟨i, _, n, failed⟩⟩
      · cases threw
      · cases closed
      · cases failed
    obtain ⟨dirs', returned⟩ : ∃ dirs', officeConfig.replicate request iteration
        (fun _ _ => Option.none) = .ok () dirs' :=
      SipxsbcConfig.replicate_returns office_documented.directories office_documented.setsClass
        rfl iteration none
    have member : office ∈ request.locations := Finset.mem_singleton_self office
    obtain ⟨_, configured⟩ := SipxsbcConfig.configured_of_replicate office_documented.directories
      office_documented.setsClass rfl returned member
    refine ⟨request, iteration, _, dirs', rfl, member, returned, configured.class_eq.symm, ?_⟩
    rw [(configured.part_iff rfl).mpr fun n closed => by cases closed]
    rfl
  enabled := rfl
  whole n closed := by cases closed
  fresh := Host.fresh_of_down rfl
  kills overtakes := by cases overtakes.2.1
  running := AgentRun.service_of_down plainFunctions_documented rfl

theorem office_texts : PlainTexts office.address office.publicAddress officeRun.vars := by
  refine ⟨?_, ?_, ?_, ?_⟩ <;> exact plainValue_of_all rfl

/-- The office listens on its address and the default ports. -/
theorem runs_as_configured_office :
    RunsAsConfigured
      (fun type locations port => locations.map fun location => ⟨type, location.address, port, none⟩)
      officeConfig.settings office officeRun.vars officeProcess :=
  runs_as_configured office_documented office_rolledOut rfl (by decide) rfl office_texts rfl rfl

end Office

end SipXsbc
