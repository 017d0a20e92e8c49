import SipXsbc.Startup.Controller

/-!
# The main program

`main` up to `sbc.run()`. The command line, the configuration files and the
calls into the stack are a `Process`. The configuration file is read twice, for
the scripts, where every exception is swallowed, and for the listeners, where
one ends the program. The results of both initialisations are dropped; `Started`
keeps them, for what is said about a controller that runs.
-/

namespace SipXsbc

/-- Options as `ServiceOptions` answers them: each question may throw, and an
option may be absent. The flag of `hasOption` is missing where the source leaves
it to its default. -/
structure ServiceOptions where
  hasOption : String → Option Bool → Except Thrown Bool
  text : String → Except Thrown (Option String)
  number : String → Except Thrown (Option Int32)

/-- What opening and parsing a file comes to. -/
inductive ParseOutcome
  | parsed (options : ServiceOptions)
  | unparsable
  | throws (thrown : Thrown)

structure LoggerSettings where
  logFile : String
  priorityLevel : Int32
  pattern : String
  compress : Bool
  purgeCount : Int32

structure DataStoreConfig where
  redisHost : String := "127.0.0.1"
  redisPort : Int32 := 6379

/-- What the program is started with, and what it calls. -/
structure Process where
  confDir : String
  service : ServiceOptions
  files : String → ParseOutcome
  loggerInit : LoggerSettings → Except Thrown Unit
  dataStoreInit : DataStoreConfig → Except Thrown Unit
  stack : Stack
  env : Environment

/-- Reading of options into a record. -/
abbrev Reading (σ α : Type) := EStateM Thrown σ α

namespace Reading

variable {σ α : Type}

def ask (answer : Except Thrown α) : Reading σ α := fun s =>
  match answer with
  | .ok a => .ok a s
  | .error thrown => .error thrown s

/-- `getOption` into a variable, which keeps its current value when the option is
absent. -/
def getOption (answer : Except Thrown (Option α)) (current : σ → α) (assign : α → σ → σ) :
    Reading σ Unit := do
  let option ← ask answer
  modify fun s => assign (option.getD (current s)) s

/-- `catch(...)` with nothing in it. -/
def swallow (body : Reading σ Unit) (s : σ) : σ :=
  match body s with
  | .ok _ s => s
  | .error _ s => s

end Reading

open Reading

namespace Main

/-- The path of the configuration file. -/
def configPath (process : Process) : Except Thrown String := do
  if !(← process.service.hasOption "config-file" (some false)) then
    return process.confDir ++ "/" ++ "sipxsbc.ini"
  else
    let configFile := (← process.service.text "config-file").getD ""
    return configFile

/-- Open the configuration file and read what can be parsed. -/
def readConfig {σ : Type} (process : Process) (body : ServiceOptions → Reading σ Unit) :
    Reading σ Unit := do
  let path ← ask (configPath process)
  match process.files path with
  | .parsed options => body options
  | .unparsable => return ()
  | .throws thrown => throw thrown

/-- How the program ends without running. -/
inductive Halt
  | exited
  | terminated (thrown : Thrown)
  deriving DecidableEq

def orTerminate {α : Type} : Except Thrown α → Except Halt α
  | .ok a => .ok a
  | .error thrown => .error (.terminated thrown)

def initLogger (process : Process) : Except Halt Unit := do
  let service := process.service
  if ← orTerminate (service.hasOption "log-file" (some true)) then
    let logFile := (← orTerminate (service.text "log-file")).getD ""
    unless logFile.isEmpty do
      let priorityLevel ← if ← orTerminate (service.hasOption "log-level" (some true)) then
          pure ((← orTerminate (service.number "log-level")).getD 5)
        else pure 5
      let compress := !(← orTerminate (service.hasOption "log-no-compress" (some true)))
      let purgeCount ← if ← orTerminate (service.hasOption "log-purge-count" none) then
          pure ((← orTerminate (service.number "log-purge-count")).getD 7)
        else pure 7
      orTerminate (process.loggerInit
        ⟨logFile, priorityLevel, "%h-%M-%S.%i: %t", compress, purgeCount⟩)
  else
    throw .exited

def readDataStore (options : ServiceOptions) : Reading DataStoreConfig Unit := do
  getOption (options.text "tcp-address") (·.redisHost) fun v s => { s with redisHost := v }
  getOption (options.number "tcp-port") (·.redisPort) fun v s => { s with redisPort := v }

def initDataStore (process : Process) : Except Thrown Unit :=
  let body : Reading DataStoreConfig Unit :=
    match process.files (process.confDir ++ "/" ++ "redis-client.ini") with
    | .parsed options => readDataStore options
    | .unparsable => return ()
    | .throws thrown => throw thrown
  process.dataStoreInit (swallow body {})

/-- The options of the scripts, then the target domain. -/
def readHandlers (options : ServiceOptions) : Reading (HandlerConfig × SBController) Unit := do
  getOption (options.text "globalScriptsDirectory") (·.1.globalScriptsDirectory) fun v s =>
    ({ s.1 with globalScriptsDirectory := v }, s.2)
  getOption (options.text "inboundRequestScript") (·.1.inboundRequestScript) fun v s =>
    ({ s.1 with inboundRequestScript := v }, s.2)
  getOption (options.text "outboundRequestScript") (·.1.outboundRequestScript) fun v s =>
    ({ s.1 with outboundRequestScript := v }, s.2)
  getOption (options.text "outboundResponseScript") (·.1.outboundResponseScript) fun v s =>
    ({ s.1 with outboundResponseScript := v }, s.2)
  getOption (options.text "routeRequestScript") (·.1.routeRequestScript) fun v s =>
    ({ s.1 with routeRequestScript := v }, s.2)
  let targetDomain := (← ask (options.text "target-domain")).getD ""
  modify fun s => (s.1, { s.2 with defaultTargetDomain := targetDomain })

def initHandler (process : Process) : StartUp (Option Bool) := do
  let sbc ← get
  let (handlers, sbc) := swallow (readConfig process readHandlers) ({}, sbc)
  set sbc
  SBController.initHandler process.env handlers

/-- The locals of `initListeners`. -/
structure ListenerLocals where
  transport : ListenerConfig := { tcpPortBase := 30000, tcpPortMax := 40000 }
  listenerAddress : String := ""
  externalAddress : String := ""
  listenerPort : Int32 := 5060
  portBase : Int32 := 30000
  portMax : Int32 := 40000

/-- `unsigned short` of an `int`: the remainder modulo 2^16. -/
def unsignedShort (n : Int32) : UInt16 := n.toUInt32.toUInt16

def readListeners (options : ServiceOptions) : Reading ListenerLocals Unit := do
  getOption (options.text "external-address") (·.externalAddress) fun v s => { s with externalAddress := v }
  getOption (options.text "listener-address") (·.listenerAddress) fun v s => { s with listenerAddress := v }
  getOption (options.number "listener-port") (·.listenerPort) fun v s => { s with listenerPort := v }
  getOption (options.number "tcp-port-base") (·.portBase) fun v s => { s with portBase := v }
  getOption (options.number "tcp-port-max") (·.portMax) fun v s => { s with portMax := v }
  modify fun s => { s with
    transport := { s.transport with
      tcpPortBase := unsignedShort s.portBase
      tcpPortMax := unsignedShort s.portMax } }

/-- The configuration with its two listeners. -/
def ListenerLocals.config (s : ListenerLocals) : ListenerConfig :=
  let listener (proto : String) : ListenerInfo :=
    { address := s.listenerAddress, externalAddress := s.externalAddress,
      port := unsignedShort s.listenerPort, proto := proto }
  { s.transport with listeners := s.transport.listeners ++ [listener "udp"] ++ [listener "tcp"] }

/-- `initListeners` up to its call of the controller; it exits when reading
throws or there is no listener address. -/
def listenerConfig (process : Process) : Except Halt ListenerConfig :=
  match readConfig process readListeners {} with
  | .error _ _ => .error .exited
  | .ok _ s => if s.listenerAddress.isEmpty then .error .exited else .ok s.config

/-- A controller that runs, with what the two initialisations returned. -/
structure Started where
  sbc : SBController
  handlers : Option Bool
  listeners : Bool

/-- The controller as it is constructed. -/
def newController (process : Process) : SBController := ⟨process.stack, [], false, ""⟩

def main (process : Process) : Except Halt Started := do
  initLogger process
  orTerminate (initDataStore process)
  match initHandler process (newController process) with
  | .error thrown _ => throw (.terminated thrown)
  | .ok handlers sbc =>
      let config ← listenerConfig process
      match SBController.initListeners process.env config sbc with
      | .error thrown _ => throw (.terminated thrown)
      | .ok listeners sbc => return ⟨sbc, handlers, listeners⟩

end Main

end SipXsbc
