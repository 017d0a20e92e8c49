import SipXsbc.Keyed.Cells

/-!
# The agent on a location

On each location an agent runs again and again. Where the `sipxsbc` class is on it writes
`sipxsbc.ini` from the part file and six lines of its own, and then it stops, starts or
restarts the service through the init script. Which commands it issues is decided once in a
run, by the classes and by whether the service was found running. The functions of the system
that do this work are parameters (`SystemFunctions`).

* `service_fresh_iff`: as long as killing works, a running service has read the `sipxsbc.ini`
  that is there, whatever else happens between the runs.
* `stale_stays`: when it once did not, no further run makes up for it.
* `stop_settles`: a run that is to stop the service may restart it instead.
-/

namespace SipXsbc

open Keyed

/-! ## The init script -/

/-- What the agent works on: the lines of `sipxsbc.ini`, and those that the running service
has read. -/
structure Host where
  ini : Option (List String)
  service : Option (List String)
  deriving DecidableEq

/-- The functions of the system that the init script and the bundles call. A call of `daemon`
or `killproc` is told whether it does its work; it answers a status, and leaves a host. -/
structure SystemFunctions where
  daemon : Bool → Host → Nat × Host
  killproc : Bool → Host → Nat × Host
  findSipxserviceByCommand : Host → Bool

/-- What is documented of them. `daemon` leaves a process that is there alone, and a program
that is started reads the file that is there, or exits; `killproc` ends the process. A call
that does not do its work changes nothing. -/
structure SystemFunctions.Documented (system : SystemFunctions) : Prop where
  daemon_up : ∀ works host, host.service.isSome = true → (system.daemon works host).2 = host
  daemon_down : ∀ host, host.service = none →
    (system.daemon true host).2 = { host with service := host.ini }
  daemon_fails : ∀ host, (system.daemon false host).2 = host
  killproc : ∀ host, (system.killproc true host).2 = { host with service := none }
  killproc_fails : ∀ host, (system.killproc false host).2 = host
  finds : ∀ host, system.findSipxserviceByCommand host = host.service.isSome

/-- What the tests of the init script come to, and whether its calls do their work. The script
nowhere sets the `config` that it tests. -/
structure ScriptCalls where
  execIsExecutable : Bool
  configIsFile : Bool
  pidfileIsFile : Bool
  daemon : Bool
  killproc : Bool
  deriving DecidableEq

/-- The commands that change the service, but for `nofork`, which does not return while it
runs. -/
inductive ServiceCommand
  | start
  | stop
  | restart
  | condrestart
  deriving DecidableEq

namespace InitScript

variable (system : SystemFunctions)

/-- The script answers a status, or exits with one. -/
abbrev Script := EStateM Nat Host Nat

def start (calls : ScriptCalls) : Script := do
  if !calls.execIsExecutable then
    throw 5
  if !calls.configIsFile then
    throw 6
  modifyGet (system.daemon calls.daemon)

def stop (calls : ScriptCalls) : Script :=
  modifyGet (system.killproc calls.killproc)

/-- The status of the first half is not looked at. -/
def restart (calls : ScriptCalls) : Script := do
  let _ ← stop system calls
  start system calls

def script (calls : ScriptCalls) : ServiceCommand → Script
  | .start => start system calls
  | .stop => stop system calls
  | .restart => restart system calls
  | .condrestart => if calls.pidfileIsFile then restart system calls else return 0

end InitScript

/-- The host after the script. -/
def runScript (system : SystemFunctions) (calls : ScriptCalls) (command : ServiceCommand)
    (host : Host) : Host :=
  left (InitScript.script system calls command host)

/-- Nothing keeps the script from starting the program. -/
def ScriptCalls.starts (calls : ScriptCalls) : Bool :=
  calls.execIsExecutable && calls.configIsFile && calls.daemon

/-! ## The bundles -/

structure SipxVars where
  confDir : String
  domain : String

/-- The classes of a run, apart from those the bundles set. -/
structure AgentClasses where
  sipxsbc : Bool
  stopSipxecs : Bool
  restartSipxecs : Bool

/-- One run: the part file that the agent finds, whether the file mode had to be repaired,
and what each command comes to. -/
structure AgentRun where
  vars : SipxVars
  classes : AgentClasses
  part : Option (List String)
  modeRepaired : Bool
  calls : ServiceCommand → ScriptCalls

namespace Agent

/-- `insert_lines`: a line that is there is not inserted again. -/
def insertLines (lines new : List String) : List String :=
  new.foldl (fun lines line => if line ∈ lines then lines else lines ++ [line]) lines

/-- The lines after the part file. -/
def ownLines (vars : SipxVars) : List String :=
  ["target-domain=" ++ vars.domain,
    "globalScriptsDirectory=" ++ vars.confDir ++ "/sipxsbc/globals",
    "inboundRequestScript=" ++ vars.confDir ++ "/sipxsbc/handlers/inboundRequest.js",
    "outboundRequestScript=" ++ vars.confDir ++ "/sipxsbc/handlers/outboundRequest.js",
    "outboundResponseScript=" ++ vars.confDir ++ "/sipxsbc/handlers/outboundResponse.js",
    "routeRequestScript=" ++ vars.confDir ++ "/sipxsbc/handlers/routeRequest.js"]

/-- `delete_lines` comes before `insert_lines`. -/
def sipxsbcIniContents (run : AgentRun) : List String :=
  insertLines [] (run.part.getD [] ++ ownLines run.vars)

/-- Writes `sipxsbc.ini`, and answers whether `restart_sipxsbc` is set. -/
def sipxsbcConfig (run : AgentRun) (host : Host) : Bool × Host :=
  let contents := sipxsbcIniContents run
  (host.ini != some contents || run.modeRepaired, { host with ini := some contents })

/-- The three commands, in the order they are promised. `sipxsbc_running` is found once. -/
def sipxsbcRunning (system : SystemFunctions) (run : AgentRun) (restartSipxsbc : Bool)
    (host : Host) : Host :=
  let classes := run.classes
  let sipxsbcRunning := system.findSipxserviceByCommand host
  let issue (guard : Bool) (command : ServiceCommand) (host : Host) : Host :=
    if guard then runScript system (run.calls command) command host else host
  let host := issue ((!classes.sipxsbc || classes.stopSipxecs) && sipxsbcRunning) .stop host
  let host := issue (classes.sipxsbc && !sipxsbcRunning && !classes.stopSipxecs) .start host
  issue (classes.sipxsbc && sipxsbcRunning && (restartSipxsbc || classes.restartSipxecs)) .restart
    host

def sipxsbc (system : SystemFunctions) (run : AgentRun) (host : Host) : Host :=
  if run.classes.sipxsbc then
    let (restartSipxsbc, host) := sipxsbcConfig run host
    sipxsbcRunning system run restartSipxsbc host
  else
    sipxsbcRunning system run false host

end Agent

/-- What happens on a host: a run of the agent, the end of the service by itself, or the
script called by hand. -/
inductive HostEvent
  | agent (run : AgentRun)
  | crash
  | byHand (calls : ScriptCalls) (command : ServiceCommand)

def HostEvent.apply (system : SystemFunctions) : HostEvent → Host → Host
  | .agent run, host => Agent.sipxsbc system run host
  | .crash, host => { host with service := none }
  | .byHand calls command, host => runScript system calls command host

def afterEvents (system : SystemFunctions) (events : List HostEvent) (host : Host) : Host :=
  events.foldl (fun host event => event.apply system host) host

/-! ## What the script does -/

section Script

variable {system : SystemFunctions} (documented : system.Documented) (calls : ScriptCalls)
  (host : Host)

theorem runScript_start_eq :
    runScript system calls .start host =
      if calls.execIsExecutable && calls.configIsFile then (system.daemon calls.daemon host).2
      else host := by
  rcases calls with ⟨executable, isFile, pidfile, daemon, killproc⟩
  cases executable <;> cases isFile <;> rfl

theorem runScript_restart :
    runScript system calls .restart host =
      runScript system calls .start (runScript system calls .stop host) := by
  rcases calls with ⟨executable, isFile, pidfile, daemon, killproc⟩
  cases executable <;> cases isFile <;> rfl

theorem runScript_condrestart :
    runScript system calls .condrestart host =
      if calls.pidfileIsFile then runScript system calls .restart host else host := by
  rcases calls with ⟨executable, isFile, pidfile, daemon, killproc⟩
  cases pidfile <;> rfl

include documented

theorem runScript_start :
    runScript system calls .start host =
      if host.service.isSome = false ∧ calls.starts = true then { host with service := host.ini }
      else host := by
  rw [runScript_start_eq]
  unfold ScriptCalls.starts
  cases calls.execIsExecutable && calls.configIsFile with
  | false => simp
  | true =>
    cases up : host.service.isSome with
    | true => simp [documented.daemon_up _ _ up]
    | false =>
      have down : host.service = none := by simpa using up
      cases calls.daemon with
      | true => simp [documented.daemon_down _ down]
      | false => simp [documented.daemon_fails]

theorem runScript_stop :
    runScript system calls .stop host =
      if calls.killproc then { host with service := none } else host := by
  have called : runScript system calls .stop host = (system.killproc calls.killproc host).2 := rfl
  rw [called]
  cases calls.killproc with
  | true => exact documented.killproc host
  | false => exact documented.killproc_fails host

variable {host}

/-- What goes on holding of a host when the service is started on the file or killed holds
after the script. -/
theorem runScript_keeps {P : Host → Prop}
    (started : ∀ host, P host → P { host with service := host.ini })
    (killed : ∀ host, P host → P { host with service := none }) (command : ServiceCommand)
    (holds : P host) : P (runScript system calls command host) := by
  have start : ∀ host, P host → P (runScript system calls .start host) := by
    intro host holds
    rw [runScript_start documented]
    split
    · exact started host holds
    · exact holds
  have stop : P (runScript system calls .stop host) := by
    rw [runScript_stop documented]
    split
    · exact killed host holds
    · exact holds
  have restart : P (runScript system calls .restart host) := by
    rw [runScript_restart]
    exact start _ stop
  cases command with
  | start => exact start host holds
  | stop => exact stop
  | restart => exact restart
  | condrestart =>
    rw [runScript_condrestart]
    split
    · exact restart
    · exact holds

/-- The script never writes the file. -/
theorem runScript_ini (command : ServiceCommand) :
    (runScript system calls command host).ini = host.ini :=
  @runScript_keeps _ documented calls host (fun host' => host'.ini = host.ini)
    (fun _ same => same) (fun _ same => same) command rfl

end Script

/-! ## What a run of the agent does -/

namespace AgentRun

variable (run : AgentRun) (host : Host)

/-- The service is to be stopped. -/
def stops : Bool := !run.classes.sipxsbc || run.classes.stopSipxecs

/-- Some class asks for a restart. -/
def restarts : Bool :=
  run.classes.sipxsbc && (host.ini != some (Agent.sipxsbcIniContents run) || run.modeRepaired ||
    run.classes.restartSipxecs)

/-- The file after the run. -/
def iniAfter : Option (List String) :=
  if run.classes.sipxsbc then some (Agent.sipxsbcIniContents run) else host.ini

variable {run host} {system : SystemFunctions} (documented : system.Documented)
include documented

/-- A service that is not running is started where it is to run. -/
theorem service_of_down (down : host.service = none) :
    (Agent.sipxsbc system run host).service =
      if run.stops then none
      else if (run.calls .start).starts then some (Agent.sipxsbcIniContents run) else none := by
  rcases host with ⟨ini, service⟩
  obtain rfl : service = none := down
  unfold Agent.sipxsbc Agent.sipxsbcRunning stops
  cases on : run.classes.sipxsbc <;> cases stop : run.classes.stopSipxecs <;>
    simp [Agent.sipxsbcConfig, runScript_start documented, documented.finds, on, stop]
  split <;> rfl

/-- A service that is running gets a stop, a restart, both or neither, in this order. -/
theorem of_up (up : host.service.isSome = true) :
    Agent.sipxsbc system run host =
      let written : Host := { host with ini := run.iniAfter host }
      let stopped :=
        if run.stops then runScript system (run.calls .stop) .stop written else written
      if run.restarts host then runScript system (run.calls .restart) .restart stopped
      else stopped := by
  unfold Agent.sipxsbc Agent.sipxsbcRunning stops restarts iniAfter
  cases on : run.classes.sipxsbc <;> simp [Agent.sipxsbcConfig, documented.finds, up, on]

theorem ini_after : (Agent.sipxsbc system run host).ini = run.iniAfter host := by
  cases up : host.service.isSome with
  | true =>
    rw [of_up documented up]
    dsimp only
    split <;> split <;> simp [runScript_ini documented]
  | false =>
    unfold Agent.sipxsbc Agent.sipxsbcRunning iniAfter
    cases on : run.classes.sipxsbc <;> simp [Agent.sipxsbcConfig, documented.finds, up, on]
    split <;> simp [runScript_ini documented]

end AgentRun

/-! ## A running service has read the file that is there -/

/-- A service that is running has read the file as it is. -/
def Host.Fresh (host : Host) : Prop := ∀ lines, host.service = some lines → host.ini = some lines

/-- The run writes another file under a running service, and neither its stop, if it issues
one, nor its restart gets rid of the process. -/
def AgentRun.Overtakes (run : AgentRun) (host : Host) : Prop :=
  run.classes.sipxsbc = true ∧ host.service.isSome = true ∧
    host.ini ≠ some (Agent.sipxsbcIniContents run) ∧
    ¬ (run.stops = true ∧ (run.calls .stop).killproc = true) ∧
    (run.calls .restart).killproc = false

/-- No run of the agent overtakes the service it finds. -/
def NoneOvertakes (system : SystemFunctions) : List HostEvent → Host → Prop
  | [], _ => True
  | event :: events, host =>
    (∀ run, event = .agent run → ¬ run.Overtakes host) ∧
      NoneOvertakes system events (event.apply system host)

section Fresh

variable {host : Host} {run : AgentRun}

theorem Host.fresh_of_down (down : host.service = none) : host.Fresh := by
  intro lines up
  rw [down] at up
  cases up

variable {system : SystemFunctions} (documented : system.Documented)
include documented

theorem Host.Fresh.script (fresh : host.Fresh) (calls : ScriptCalls) (command : ServiceCommand) :
    (runScript system calls command host).Fresh :=
  runScript_keeps documented calls (fun _ _ _ up => up) (fun _ _ => Host.fresh_of_down rfl) command
    fresh

/-- A restart that kills leaves no service that has read an old file. -/
theorem fresh_of_restart {calls : ScriptCalls} (kills : calls.killproc = true) :
    (runScript system calls .restart host).Fresh := by
  rw [runScript_restart, runScript_stop documented, kills]
  exact (Host.fresh_of_down rfl).script documented calls .start

/-- A restart that does not kill leaves a running service as it is. -/
theorem restart_of_up (host : Host) {calls : ScriptCalls} (kills : calls.killproc = false)
    (up : host.service.isSome = true) : runScript system calls .restart host = host := by
  rw [runScript_restart, runScript_stop documented, kills, runScript_start documented]
  simp only [Bool.false_eq_true, if_false, up, reduceCtorEq, false_and]

/-- A run that finds no service leaves none, or one that has read the file it wrote. -/
theorem fresh_of_found_down (down : host.service = none) :
    (Agent.sipxsbc system run host).Fresh := by
  intro lines up
  rw [AgentRun.service_of_down documented down] at up
  rw [AgentRun.ini_after documented, AgentRun.iniAfter]
  cases on : run.classes.sipxsbc with
  | false =>
    have stops : run.stops = true := by rw [AgentRun.stops, on]; rfl
    rw [stops] at up
    cases up
  | true =>
    split at up
    · cases up
    · split at up
      · exact up
      · cases up

/-- A run that leaves the file as it is keeps a running service fresh. -/
theorem fresh_of_same_file (fresh : host.Fresh) (up : host.service.isSome = true)
    (same : run.iniAfter host = host.ini) : (Agent.sipxsbc system run host).Fresh := by
  have stopped :
      (if run.stops then runScript system (run.calls .stop) .stop host else host).Fresh := by
    split
    · exact fresh.script documented _ _
    · exact fresh
  rw [AgentRun.of_up documented up]
  simp only [same]
  split
  · exact stopped.script documented _ _
  · exact stopped

/-- A run that changes the file under a running service leaves it fresh unless it
overtakes it. -/
theorem fresh_of_other_file (fresh : host.Fresh) (on : run.classes.sipxsbc = true)
    (up : host.service.isSome = true) (other : host.ini ≠ some (Agent.sipxsbcIniContents run)) :
    (Agent.sipxsbc system run host).Fresh ↔ ¬ run.Overtakes host := by
  have restarts : run.restarts host = true := by
    simp only [AgentRun.restarts, on, bne_iff_ne.mpr other, Bool.true_or, Bool.and_self]
  have written : run.iniAfter host = some (Agent.sipxsbcIniContents run) := by
    simp only [AgentRun.iniAfter, on, if_true]
  rw [AgentRun.of_up documented up]
  simp only [restarts, if_true, written]
  unfold AgentRun.Overtakes
  cases kills : (run.calls .restart).killproc with
  | true =>
    refine ⟨fun _ overtakes => Bool.noConfusion overtakes.2.2.2.2, fun _ => ?_⟩
    exact fresh_of_restart documented kills
  | false =>
    by_cases stopped : run.stops = true ∧ (run.calls .stop).killproc = true
    · refine ⟨fun _ overtakes => overtakes.2.2.2.1 stopped, fun _ => ?_⟩
      rw [if_pos stopped.1, runScript_stop documented, if_pos stopped.2]
      exact (Host.fresh_of_down rfl).script documented _ _
    · -- the process is still there, with the file it has read before
      have there : (if run.stops = true then runScript system (run.calls .stop) .stop
            { host with ini := some (Agent.sipxsbcIniContents run) }
          else { host with ini := some (Agent.sipxsbcIniContents run) }) =
          { host with ini := some (Agent.sipxsbcIniContents run) } := by
        split
        · rename_i stops
          rw [runScript_stop documented, if_neg fun killed => stopped ⟨stops, killed⟩]
        · rfl
      have kept := restart_of_up documented
        { host with ini := some (Agent.sipxsbcIniContents run) } kills up
      rw [there, kept]
      obtain ⟨lines, reads⟩ := Option.isSome_iff_exists.mp up
      refine ⟨fun freshAfter _ => ?_, fun none => absurd ⟨on, up, other, stopped, rfl⟩ none⟩
      exact other ((fresh lines reads).trans (freshAfter lines reads).symm)

theorem fresh_agent_iff (fresh : host.Fresh) :
    (Agent.sipxsbc system run host).Fresh ↔ ¬ run.Overtakes host := by
  rcases found : host.service with _ | lines
  · refine ⟨fun _ overtakes => ?_, fun _ => fresh_of_found_down documented found⟩
    have up := overtakes.2.1
    rw [found] at up
    cases up
  · have up : host.service.isSome = true := by rw [found]; rfl
    cases on : run.classes.sipxsbc with
    | false =>
      refine ⟨fun _ overtakes => ?_, fun _ => fresh_of_same_file documented fresh up ?_⟩
      · rw [overtakes.1] at on
        cases on
      · simp only [AgentRun.iniAfter, on, Bool.false_eq_true, if_false]
    | true =>
      by_cases same : host.ini = some (Agent.sipxsbcIniContents run)
      · refine ⟨fun _ overtakes => overtakes.2.2.1 same, fun _ => ?_⟩
        apply fresh_of_same_file documented fresh up
        simp only [AgentRun.iniAfter, on, if_true, same]
      · exact fresh_of_other_file documented fresh on up same

theorem fresh_event_iff (fresh : host.Fresh) (event : HostEvent) :
    (event.apply system host).Fresh ↔ ∀ run, event = .agent run → ¬ run.Overtakes host := by
  cases event with
  | agent run =>
    have agent : (HostEvent.agent run).apply system host = Agent.sipxsbc system run host := rfl
    rw [agent, fresh_agent_iff documented fresh]
    refine ⟨?_, fun none => none run rfl⟩
    intro none run' same
    cases same
    exact none
  | crash =>
    refine ⟨?_, fun _ => Host.fresh_of_down rfl⟩
    intro _ run same
    cases same
  | byHand calls command =>
    refine ⟨?_, fun _ => fresh.script documented calls command⟩
    intro _ run same
    cases same

/-- Events that overtake nothing keep a running service fresh all along. -/
theorem fresh_after {before later : List HostEvent} (fresh : host.Fresh)
    (none : NoneOvertakes system (before ++ later) host) :
    (afterEvents system before host).Fresh := by
  induction before generalizing host with
  | nil => exact fresh
  | cons event before ih => exact ih ((fresh_event_iff documented fresh event).mpr none.1) none.2

/-- **A running service has read the file that is there**, after every event of a history,
exactly when no run of the agent in it overtakes the service. -/
theorem service_fresh_iff (fresh : host.Fresh) (events : List HostEvent) :
    (∀ before later, events = before ++ later → (afterEvents system before host).Fresh) ↔
      NoneOvertakes system events host := by
  refine ⟨?_, ?_⟩
  · intro always
    induction events generalizing host with
    | nil => trivial
    | cons event events ih =>
      have first := always [event] events rfl
      refine ⟨(fresh_event_iff documented fresh event).mp first, ih first ?_⟩
      intro before later split
      exact always (event :: before) later (by rw [split]; rfl)
  · intro none before later split
    rw [split] at none
    exact fresh_after documented fresh none

end Fresh

/-! ## An old service stays -/

section Stale

variable {host : Host} {run : AgentRun}

/-- Nothing asks the run to change anything about a running service, and it finds the file
it would write. -/
structure AgentRun.Settled (run : AgentRun) (host : Host) : Prop where
  on : run.classes.sipxsbc = true
  stop : run.classes.stopSipxecs = false
  restart : run.classes.restartSipxecs = false
  mode : run.modeRepaired = false
  file : host.ini = some (Agent.sipxsbcIniContents run)

variable {system : SystemFunctions} (documented : system.Documented)
include documented

theorem settled_same (settled : run.Settled host) (up : host.service.isSome = true) :
    Agent.sipxsbc system run host = host := by
  have stops : run.stops = false := by
    simp only [AgentRun.stops, settled.on, settled.stop, Bool.not_true, Bool.or_self]
  have restarts : run.restarts host = false := by
    simp only [AgentRun.restarts, settled.file, settled.mode, settled.restart, bne_self_eq_false,
      Bool.or_self, Bool.and_false]
  have ini : run.iniAfter host = host.ini := by
    simp only [AgentRun.iniAfter, settled.on, if_true, settled.file]
  rw [AgentRun.of_up documented up]
  simp only [stops, restarts, ini, Bool.false_eq_true, if_false]

/-- **No later run makes up for a restart that did not kill.** A service that a run
overtook without being told to stop it keeps running on the old file over any number of
further runs that find the part file as it is, whatever their commands would come to. -/
theorem stale_stays {lines : List String} (up : host.service = some lines)
    (overtakes : run.Overtakes host) (kept : run.stops = false) (later : List AgentRun)
    (settled : ∀ run' ∈ later, run'.Settled (Agent.sipxsbc system run host)) :
    afterEvents system (later.map .agent) (Agent.sipxsbc system run host) =
      ⟨some (Agent.sipxsbcIniContents run), some lines⟩ := by
  obtain ⟨on, up', other, _, kills⟩ := overtakes
  have now : Agent.sipxsbc system run host = ⟨some (Agent.sipxsbcIniContents run), some lines⟩ := by
    have written : run.iniAfter host = some (Agent.sipxsbcIniContents run) := by
      simp only [AgentRun.iniAfter, on, if_true]
    have still := restart_of_up documented
      { host with ini := some (Agent.sipxsbcIniContents run) } kills up'
    rw [AgentRun.of_up documented up']
    simp only [kept, written, Bool.false_eq_true, if_false, still, ite_self]
    rw [up]
  rw [now] at settled ⊢
  clear up up' now other
  induction later with
  | nil => rfl
  | cons run' later ih =>
    have same := settled_same documented (settled run' List.mem_cons_self) rfl
    refine Eq.trans ?_ (ih fun r member => settled r (List.mem_cons_of_mem run' member))
    exact congrArg (afterEvents system (later.map .agent)) same

end Stale

/-! ## Stopping -/

section Stop

/-- A run of a series finds what the first one has left as it would leave it. -/
structure AgentRun.Repeats (run first : AgentRun) : Prop where
  on : run.classes.sipxsbc = first.classes.sipxsbc
  file : Agent.sipxsbcIniContents run = Agent.sipxsbcIniContents first
  restart : run.classes.restartSipxecs = false
  mode : run.modeRepaired = false

variable {host : Host} {run : AgentRun} {system : SystemFunctions} (documented : system.Documented)
include documented

/-- A run that is to stop the service leaves it running exactly when the service it finds
survives the stop, and the restart if there is one, or the restart starts it again. -/
theorem running_after_stop_iff (host : Host) (stops : run.stops = true) :
    (Agent.sipxsbc system run host).service.isSome = true ↔
      host.service.isSome = true ∧
        (((run.calls .stop).killproc = false ∧
            (run.restarts host = true → (run.calls .restart).killproc = false)) ∨
          (run.restarts host = true ∧ (run.calls .restart).starts = true)) := by
  cases up : host.service.isSome with
  | false =>
    have down : host.service = none :=
      Option.isNone_iff_eq_none.mp (Option.isSome_eq_false_iff.mp up)
    rw [AgentRun.service_of_down documented down, if_pos stops]
    simp
  | true =>
    have file : run.restarts host = true → (run.iniAfter host).isSome = true := by
      intro restarts
      simp only [AgentRun.restarts, Bool.and_eq_true] at restarts
      rw [AgentRun.iniAfter, if_pos restarts.1]
      rfl
    rw [AgentRun.of_up documented up]
    simp only [stops, if_true, runScript_restart, runScript_start documented,
      runScript_stop documented]
    cases restarts : run.restarts host with
    | false =>
      cases killed : (run.calls .stop).killproc <;> simp [up]
    | true =>
      have there := file restarts
      cases killed : (run.calls .stop).killproc <;>
        cases killed' : (run.calls .restart).killproc <;>
          cases starts : (run.calls .restart).starts <;> simp [up, there]

theorem restarts_of_repeats {first : AgentRun} (repeats : run.Repeats first) :
    run.restarts (Agent.sipxsbc system first host) = false := by
  unfold AgentRun.restarts
  rw [AgentRun.ini_after documented, AgentRun.iniAfter, repeats.on, repeats.file, repeats.restart,
    repeats.mode]
  cases first.classes.sipxsbc with
  | false => rfl
  | true => simp only [if_true, bne_self_eq_false, Bool.or_self, Bool.and_false]

/-- Runs that are to stop the service start none. -/
theorem down_after_stops {runs : List AgentRun} (stops : ∀ run ∈ runs, run.stops = true)
    (down : host.service = none) : (afterEvents system (runs.map .agent) host).service = none := by
  induction runs generalizing host with
  | nil => exact down
  | cons run runs ih =>
    apply ih fun run' member => stops run' (List.mem_cons_of_mem run member)
    have next : (Agent.sipxsbc system run host).service = none := by
      rw [AgentRun.service_of_down documented down, if_pos (stops run List.mem_cons_self)]
    exact next

/-- **Stopping takes two runs at most.** After a series of runs that are to stop the
service, in which killing works and which find the same part file, the service is running
exactly when the series is a single run that found it running and restarted it. -/
theorem stop_settles {first : AgentRun} {rest : List AgentRun}
    (stops : ∀ run ∈ first :: rest, run.stops = true)
    (kills : ∀ run ∈ first :: rest, (run.calls .stop).killproc = true)
    (repeats : ∀ run ∈ rest, run.Repeats first) :
    (afterEvents system ((first :: rest).map .agent) host).service.isSome = true ↔
      rest = [] ∧ host.service.isSome = true ∧ first.restarts host = true ∧
        (first.calls .restart).starts = true := by
  have killed := kills first List.mem_cons_self
  cases rest with
  | nil =>
    have one : afterEvents system ([first].map .agent) host = Agent.sipxsbc system first host := rfl
    rw [one, running_after_stop_iff documented host (stops first List.mem_cons_self), killed]
    simp
  | cons run rest =>
    have second := running_after_stop_iff documented (Agent.sipxsbc system first host)
      (stops run (List.mem_cons_of_mem first List.mem_cons_self))
    rw [restarts_of_repeats documented (repeats run List.mem_cons_self),
      kills run (List.mem_cons_of_mem first List.mem_cons_self)] at second
    have down : (Agent.sipxsbc system run (Agent.sipxsbc system first host)).service = none := by
      rw [← Option.not_isSome_iff_eq_none, second]
      simp
    have last : afterEvents system ((first :: run :: rest).map .agent) host =
        afterEvents system (rest.map .agent)
          (Agent.sipxsbc system run (Agent.sipxsbc system first host)) := rfl
    rw [last, down_after_stops documented (fun run' member =>
      stops run' (List.mem_cons_of_mem first (List.mem_cons_of_mem run member))) down]
    refine ⟨?_, fun given => by cases given.1⟩
    intro up
    cases up

end Stop

/-! ## Runs on one host -/

section OneHost

/-- Statuses are 0 and 1. -/
def plainFunctions : SystemFunctions where
  daemon works host :=
    if host.service.isSome then (0, host)
    else if works then (0, { host with service := host.ini }) else (1, host)
  killproc works host := if works then (0, { host with service := none }) else (1, host)
  findSipxserviceByCommand host := host.service.isSome

theorem plainFunctions_documented : plainFunctions.Documented where
  daemon_up works host up := by simp only [plainFunctions, up, if_true]
  daemon_down host down := by simp [plainFunctions, down]
  daemon_fails host := by
    unfold plainFunctions
    dsimp only
    split <;> rfl
  killproc host := rfl
  killproc_fails host := rfl
  finds host := rfl

/-- A run that finds one line in the part file; `killed` says whether its restart kills. -/
def portRun (line : String) (stop killed : Bool) : AgentRun where
  vars := ⟨"/etc/sipxpbx", "example.org"⟩
  classes := ⟨true, stop, false⟩
  part := some [line]
  modeRepaired := false
  calls command := ⟨true, true, true, true, command == .stop || killed⟩

/-- The host after the service was started on port 5060. -/
def startedHost : Host :=
  ⟨some (Agent.sipxsbcIniContents (portRun "listener-port=5060" false true)),
    some (Agent.sipxsbcIniContents (portRun "listener-port=5060" false true))⟩

theorem portRun_overtakes : (portRun "listener-port=5070" false false).Overtakes startedHost := by
  refine ⟨rfl, rfl, ?_, ?_, rfl⟩
  · decide
  · decide

/-- The port changes, the service crashes, and it is started by the next run: it is fresh all
the time. -/
theorem service_fresh_iff_port :
    let events : List HostEvent :=
      [.agent (portRun "listener-port=5070" false true), .crash,
        .agent (portRun "listener-port=5070" false true)]
    (∀ before later, events = before ++ later →
        (afterEvents plainFunctions before startedHost).Fresh) ↔
      NoneOvertakes plainFunctions events startedHost :=
  service_fresh_iff plainFunctions_documented (fun _ up => up) _

/-- After a restart that does not kill, two more runs leave the service on port 5060. -/
theorem stale_stays_port :
    afterEvents plainFunctions [.agent (portRun "listener-port=5070" false true),
        .agent (portRun "listener-port=5070" false true)]
        (Agent.sipxsbc plainFunctions (portRun "listener-port=5070" false false) startedHost) =
      ⟨some (Agent.sipxsbcIniContents (portRun "listener-port=5070" false false)),
        startedHost.service⟩ := by
  refine stale_stays plainFunctions_documented rfl portRun_overtakes rfl
    [portRun "listener-port=5070" false true, portRun "listener-port=5070" false true] ?_
  intro run member
  simp only [List.mem_cons, List.not_mem_nil, or_false, or_self] at member
  subst member
  exact ⟨rfl, rfl, rfl, rfl, rfl⟩

/-- A changed port and a stop in one run: the service is restarted, and stopped by the next
run. -/
theorem stop_settles_port :
    (afterEvents plainFunctions [.agent (portRun "listener-port=5070" true true)]
        startedHost).service.isSome = true ∧
      ¬ (afterEvents plainFunctions [.agent (portRun "listener-port=5070" true true),
        .agent (portRun "listener-port=5070" true true)] startedHost).service.isSome = true := by
  have steady : ∀ run ∈ [portRun "listener-port=5070" true true],
      run.Repeats (portRun "listener-port=5070" true true) := by
    intro run member
    obtain rfl := List.mem_singleton.mp member
    exact ⟨rfl, rfl, rfl, rfl⟩
  refine ⟨?_, ?_⟩
  · refine (@stop_settles startedHost _ plainFunctions_documented _ [] ?_ ?_ ?_).mpr
      ⟨rfl, rfl, ?_, rfl⟩
    · intro run member
      obtain rfl := List.mem_singleton.mp member
      rfl
    · intro run member
      obtain rfl := List.mem_singleton.mp member
      rfl
    · exact fun run member => absurd member List.not_mem_nil
    · decide
  · intro up
    have settled := (@stop_settles startedHost _ plainFunctions_documented _
      [portRun "listener-port=5070" true true] ?_ ?_ steady).mp up
    · cases settled.1
    · intro run member
      simp only [List.mem_cons, List.not_mem_nil, or_false, or_self] at member
      subst member
      rfl
    · intro run member
      simp only [List.mem_cons, List.not_mem_nil, or_false, or_self] at member
      subst member
      rfl

end OneHost

end SipXsbc
