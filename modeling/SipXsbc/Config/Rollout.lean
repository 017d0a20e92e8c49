import SipXsbc.Config.Deployed
import SipXsbc.Config.Interrupted

/-!
# Rollouts

The server replicates and the agents of the locations run, each in its own time. An agent
finds the files of its location as they were copied last, one by one, and meanwhile services
crash and are started by hand. Over any such history a location is configured by texts of its
own (`services_own`), and a replication that returned has come through everywhere once the
agents have had their turn (`rollout_converges`).
-/

namespace SipXsbc

open Keyed Main

/-! ## The server and the hosts -/

/-- Where the server keeps the files of a location, how the text of a data file is read, and the
functions of the system on the hosts. -/
structure Layout (Location Dir : Type) where
  directory : Location → Dir
  classEnabled : String → List Char → Bool
  system : SystemFunctions

/-- The directories of the server, and for every location its copies and its host. -/
structure Cluster (Location Dir : Type) where
  dirs : Dir → Folder
  copies : Location → Folder
  hosts : Location → Host

/-- A run of the agent, but for what it finds. -/
structure AgentTurn where
  vars : SipxVars
  stopSipxecs : Bool
  restartSipxecs : Bool
  modeRepaired : Bool
  calls : ServiceCommand → ScriptCalls

inductive ClusterEvent (Location Dir Settings : Type)
  | replicate (r : Replication Location Dir Settings)
  | fetch (location : Location) (name : String)
  | agent (location : Location) (turn : AgentTurn)
  | crash (location : Location)
  | byHand (location : Location) (calls : ScriptCalls) (command : ServiceCommand)

section Model

variable {Location Dir Settings : Type} (layout : Layout Location Dir)

/-- The turn with the class and the part file of a folder. -/
def AgentTurn.run (turn : AgentTurn) (folder : Folder) : AgentRun where
  vars := turn.vars
  classes :=
    ⟨(folder "sipxsbc.cfdat").any (layout.classEnabled "sipxsbc"), turn.stopSipxecs,
      turn.restartSipxecs⟩
  part := linesOfPart (folder "sipxsbc.ini.part")
  modeRepaired := turn.modeRepaired
  calls := turn.calls

variable [DecidableEq Location] [DecidableEq Dir]

namespace ClusterEvent

/-- What happens on the host of a location. -/
def on (location : Location) (c : Cluster Location Dir) :
    ClusterEvent Location Dir Settings → List HostEvent
  | replicate _ => []
  | fetch _ _ => []
  | agent there turn =>
      if there = location then [.agent (turn.run layout (c.copies location))] else []
  | crash there => if there = location then [.crash] else []
  | byHand there calls command => if there = location then [.byHand calls command] else []

def apply (event : ClusterEvent Location Dir Settings) (c : Cluster Location Dir) :
    Cluster Location Dir where
  dirs :=
    match event with
    | replicate r => r.run c.dirs
    | _ => c.dirs
  copies :=
    match event with
    | fetch location name =>
        Function.update c.copies location
          (Function.update (c.copies location) name (c.dirs (layout.directory location) name))
    | _ => c.copies
  hosts location := afterEvents layout.system (event.on layout location c) (c.hosts location)

end ClusterEvent

namespace Cluster

def after (c : Cluster Location Dir) (events : List (ClusterEvent Location Dir Settings)) :
    Cluster Location Dir :=
  events.foldl (fun c event => event.apply layout c) c

/-- All that happens on the host of a location. -/
def eventsOn (location : Location) (c : Cluster Location Dir) :
    List (ClusterEvent Location Dir Settings) → List HostEvent
  | [] => []
  | event :: events =>
      event.on layout location c ++ eventsOn location (event.apply layout c) events

/-! ## The history of one host -/

variable {layout} {location : Location} (c : Cluster Location Dir)

theorem after_append (before later : List (ClusterEvent Location Dir Settings)) :
    c.after layout (before ++ later) = (c.after layout before).after layout later :=
  List.foldl_append

theorem eventsOn_append (before later : List (ClusterEvent Location Dir Settings)) :
    c.eventsOn layout location (before ++ later) =
      c.eventsOn layout location before ++
        (c.after layout before).eventsOn layout location later := by
  induction before generalizing c with
  | nil => rfl
  | cons event before ih =>
    have split : c.eventsOn layout location (event :: before ++ later) =
        event.on layout location c ++
          (event.apply layout c).eventsOn layout location (before ++ later) := rfl
    rw [split, ih, ← List.append_assoc]
    rfl

/-- A host has the state that its own history leads to. -/
theorem hosts_after (events : List (ClusterEvent Location Dir Settings)) :
    (c.after layout events).hosts location =
      afterEvents layout.system (c.eventsOn layout location events) (c.hosts location) := by
  induction events generalizing c with
  | nil => rfl
  | cons event events ih =>
    have step : c.after layout (event :: events) = (event.apply layout c).after layout events := rfl
    have split : c.eventsOn layout location (event :: events) =
        event.on layout location c ++
          (event.apply layout c).eventsOn layout location events := rfl
    rw [step, ih, split, afterEvents, afterEvents, List.foldl_append]
    rfl

end Cluster

end Model

/-! ## Lines of a kind -/

/-- The lines of `sipxsbc.ini` from a part file. -/
def iniContents (vars : SipxVars) (part : Option (List Char)) : List String :=
  Agent.insertLines [] ((linesOfPart part).getD [] ++ Agent.ownLines vars)

/-- All lines on a host, in the file and in the service, are of a kind. -/
structure Host.Has (P : List String → Prop) (host : Host) : Prop where
  ini : ∀ lines, host.ini = some lines → P lines
  service : ∀ lines, host.service = some lines → P lines

namespace Host.Has

variable {P : List String → Prop} {host : Host} {system : SystemFunctions}
  (documented : system.Documented)
include documented

theorem script (has : host.Has P) (calls : ScriptCalls) (command : ServiceCommand) :
    (runScript system calls command host).Has P :=
  runScript_keeps documented calls (fun _ has => ⟨has.ini, has.ini⟩)
    (fun _ has => ⟨has.ini, nofun⟩) command has

theorem running (has : host.Has P) (run : AgentRun) (restartSipxsbc : Bool) :
    (Agent.sipxsbcRunning system run restartSipxsbc host).Has P := by
  have issue : ∀ (guard : Bool) (command : ServiceCommand) (host : Host), host.Has P →
      (if guard then runScript system (run.calls command) command host else host).Has P := by
    intro guard command host has
    split
    · exact has.script documented _ _
    · exact has
  exact issue _ _ _ (issue _ _ _ (issue _ _ _ has))

/-- An event brings no other lines than those a run of the agent writes. -/
theorem event (has : host.Has P) (event : HostEvent)
    (writes : ∀ run, event = .agent run → P (Agent.sipxsbcIniContents run)) :
    (event.apply system host).Has P := by
  cases event with
  | crash => exact ⟨has.ini, nofun⟩
  | byHand calls command => exact has.script documented calls command
  | agent run =>
    have config : (Agent.sipxsbcConfig run host).2.Has P := by
      refine ⟨?_, has.service⟩
      intro lines same
      cases same
      exact writes run rfl
    have written : (HostEvent.agent run).apply system host = Agent.sipxsbc system run host := rfl
    rw [written, Agent.sipxsbc]
    split
    · exact config.running documented run (Agent.sipxsbcConfig run host).1
    · exact has.running documented run false

theorem events (has : host.Has P) (events : List HostEvent)
    (writes : ∀ run, .agent run ∈ events → P (Agent.sipxsbcIniContents run)) :
    (afterEvents system events host).Has P := by
  induction events generalizing host with
  | nil => exact has
  | cons first events ih =>
    apply ih (has.event documented first ?_)
    · exact fun run member => writes run (List.mem_cons_of_mem first member)
    · intro run same
      exact writes run (same ▸ List.mem_cons_self)

end Host.Has

section Own

variable {Location Dir Settings : Type} [DecidableEq Location] [DecidableEq Dir]
  {layout : Layout Location Dir} {location : Location}

omit [DecidableEq Dir] in
theorem mem_on_agent {event : ClusterEvent Location Dir Settings} {c : Cluster Location Dir}
    {run : AgentRun} (member : .agent run ∈ event.on layout location c) :
    ∃ turn, event = .agent location turn ∧ run = turn.run layout (c.copies location) := by
  cases event with
  | replicate r => cases member
  | fetch there name => cases member
  | agent there turn =>
    change _ ∈ (if there = location then _ else []) at member
    split at member
    · rename_i here
      subst here
      cases List.mem_singleton.mp member
      exact ⟨turn, rfl, rfl⟩
    · cases member
  | crash there =>
    change _ ∈ (if there = location then _ else []) at member
    split at member
    · cases List.mem_singleton.mp member
    · cases member
  | byHand there calls command =>
    change _ ∈ (if there = location then _ else []) at member
    split at member
    · cases List.mem_singleton.mp member
    · cases member

/-- What the agent of a location runs are its turns. -/
theorem mem_eventsOn_agent {events : List (ClusterEvent Location Dir Settings)}
    {c : Cluster Location Dir} {run : AgentRun}
    (member : .agent run ∈ c.eventsOn layout location events) :
    ∃ turn folder, .agent location turn ∈ events ∧ run = turn.run layout folder := by
  induction events generalizing c with
  | nil => cases member
  | cons event events ih =>
    rcases List.mem_append.mp member with first | later
    · obtain ⟨turn, rfl, same⟩ := mem_on_agent first
      exact ⟨turn, _, List.mem_cons_self, same⟩
    · obtain ⟨turn, folder, rest, same⟩ := ih later
      exact ⟨turn, folder, List.mem_cons_of_mem event rest, same⟩

/-- The part files of a location are of one kind and the lines on its host of another. -/
structure Cluster.Has (layout : Layout Location Dir) (location : Location)
    (Q : Option (List Char) → Prop) (P : List String → Prop) (c : Cluster Location Dir) : Prop where
  dir : Q (c.dirs (layout.directory location) "sipxsbc.ini.part")
  copy : Q (c.copies location "sipxsbc.ini.part")
  host : (c.hosts location).Has P

/-- What a replication begins at a location is of the first kind, and what a turn writes there
from the first kind is of the second. -/
structure ClusterEvent.Brings (layout : Layout Location Dir) (location : Location)
    (Q : Option (List Char) → Prop) (P : List String → Prop)
    (event : ClusterEvent Location Dir Settings) : Prop where
  directory : ∀ r, event = .replicate r →
    r.config.manager.getLocationDataDirectory = layout.directory
  keeps : ∀ r, event = .replicate r → r.config.utils.KeepsToDatfile
  begins : ∀ r, event = .replicate r → ∀ part, r.BeginsPart location part → Q part
  writes : ∀ turn, event = .agent location turn → ∀ part, Q part → P (iniContents turn.vars part)

section Kinds

variable {Q : Option (List Char) → Prop} {P : List String → Prop} {c : Cluster Location Dir}

theorem Cluster.Has.apply (documented : layout.system.Documented)
    (has : c.Has layout location Q P) (own : Function.Injective layout.directory)
    {event : ClusterEvent Location Dir Settings}
    (brings : event.Brings layout location Q P) :
    (event.apply layout c).Has layout location Q P where
  dir := by
    cases event with
    | replicate r =>
      have here := brings.directory r rfl
      have left := r.run_part (by rw [here]; exact own) (brings.keeps r rfl) c.dirs location
      rw [here] at left
      rcases left with same | begun
      · exact (congrArg Q same).mpr has.dir
      · exact brings.begins r rfl _ begun
    | fetch _ _ => exact has.dir
    | agent _ _ => exact has.dir
    | crash _ => exact has.dir
    | byHand _ _ _ => exact has.dir
  copy := by
    cases event with
    | fetch other name =>
      change Q (Function.update c.copies other _ location _)
      by_cases here : location = other
      · subst here
        rw [Function.update_self]
        by_cases part : "sipxsbc.ini.part" = name
        · subst part
          rw [Function.update_self]
          exact has.dir
        · rw [Function.update_of_ne part]
          exact has.copy
      · rw [Function.update_of_ne here]
        exact has.copy
    | replicate _ => exact has.copy
    | agent _ _ => exact has.copy
    | crash _ => exact has.copy
    | byHand _ _ _ => exact has.copy
  host := by
    refine has.host.events documented _ ?_
    intro run member
    obtain ⟨turn, same, rfl⟩ := mem_on_agent member
    exact brings.writes turn same _ has.copy

theorem Cluster.Has.after (documented : layout.system.Documented)
    (has : c.Has layout location Q P) (own : Function.Injective layout.directory)
    (events : List (ClusterEvent Location Dir Settings))
    (brings : ∀ event ∈ events, event.Brings layout location Q P) :
    (c.after layout events).Has layout location Q P := by
  induction events generalizing c with
  | nil => exact has
  | cons event events ih =>
    apply ih (has.apply documented own (brings event List.mem_cons_self))
    exact fun event' member => brings event' (List.mem_cons_of_mem event member)

end Kinds

/-- A part file that a location had at first, or a beginning of the one that some
replication was to write for it. -/
def Cluster.PartOf (layout : Layout Location Dir)
    (events : List (ClusterEvent Location Dir Settings)) (c : Cluster Location Dir)
    (location : Location) (part : Option (List Char)) : Prop :=
  part = c.dirs (layout.directory location) "sipxsbc.ini.part" ∨
    part = c.copies location "sipxsbc.ini.part" ∨
    ∃ r, .replicate r ∈ events ∧ r.BeginsPart location part

/-- **A service has settings of one replication, and its own.** Over any history of the server
and the hosts, the lines that the service of a location has read are lines that were there at
first, or were written by a turn of its agent from a part file of this location. -/
theorem services_own (documented : layout.system.Documented)
    (own : Function.Injective layout.directory)
    (events : List (ClusterEvent Location Dir Settings)) (c : Cluster Location Dir)
    (there : ∀ r, .replicate r ∈ events →
      r.config.manager.getLocationDataDirectory = layout.directory)
    (keeps : ∀ r, .replicate r ∈ events → r.config.utils.KeepsToDatfile) {lines : List String}
    (running : ((c.after layout events).hosts location).service = some lines) :
    (c.hosts location).ini = some lines ∨ (c.hosts location).service = some lines ∨
      ∃ turn part, .agent location turn ∈ events ∧ c.PartOf layout events location part ∧
        lines = iniContents turn.vars part := by
  let Own (lines : List String) : Prop :=
    (c.hosts location).ini = some lines ∨ (c.hosts location).service = some lines ∨
      ∃ turn part, .agent location turn ∈ events ∧ c.PartOf layout events location part ∧
        lines = iniContents turn.vars part
  have first : c.Has layout location (c.PartOf layout events location) Own :=
    ⟨.inl rfl, .inr (.inl rfl), fun _ same => .inl same, fun _ same => .inr (.inl same)⟩
  have last := first.after documented own events ?_
  · exact last.host.service lines running
  · intro event member
    refine ⟨?_, ?_, ?_, ?_⟩
    · exact fun r same => there r (same ▸ member)
    · exact fun r same => keeps r (same ▸ member)
    · exact fun r same part begins => .inr (.inr ⟨r, same ▸ member, begins⟩)
    · exact fun turn same part found => .inr (.inr ⟨turn, part, same ▸ member, found, rfl⟩)

end Own

/-! ## The last turn -/

/-- Every command of the turn comes to what it is for, and the turn is not to stop the
service. -/
structure AgentTurn.Succeeds (turn : AgentTurn) : Prop where
  runs : turn.stopSipxecs = false
  start : (turn.calls .start).starts = true
  stop : (turn.calls .stop).killproc = true
  restart : (turn.calls .restart).killproc = true ∧ (turn.calls .restart).starts = true

section Turn

variable {run : AgentRun} {host : Host} {system : SystemFunctions}

/-- Where the service is to run, a run whose commands succeed leaves it with the file. -/
theorem service_of_succeeds (documented : system.Documented) (on : run.classes.sipxsbc = true)
    (runs : run.classes.stopSipxecs = false)
    (start : (run.calls .start).starts = true)
    (restart : (run.calls .restart).killproc = true ∧ (run.calls .restart).starts = true)
    (fresh : host.Fresh) :
    (Agent.sipxsbc system run host).service = some (Agent.sipxsbcIniContents run) := by
  have stays : run.stops = false := by
    rw [AgentRun.stops, on, runs]
    rfl
  have written : run.iniAfter host = some (Agent.sipxsbcIniContents run) := by
    rw [AgentRun.iniAfter, if_pos on]
  rcases found : host.service with _ | lines
  · rw [AgentRun.service_of_down documented found, stays, start]
    rfl
  · have up : host.service.isSome = true := by rw [found]; rfl
    rw [AgentRun.of_up documented up]
    simp only [stays, Bool.false_eq_true, if_false, written]
    cases restarts : run.restarts host with
    | true =>
      rw [if_pos rfl, runScript_restart, runScript_stop documented, if_pos restart.1,
        runScript_start documented, if_pos ⟨rfl, restart.2⟩]
    | false =>
      -- nothing was written, so what the service has read is the file
      have same : host.ini = some (Agent.sipxsbcIniContents run) := by
        rw [AgentRun.restarts, on, Bool.true_and, Bool.or_eq_false_iff,
          Bool.or_eq_false_iff] at restarts
        simpa using restarts.1.1
      rw [if_neg Bool.false_ne_true, found, ← same]
      exact (fresh lines found).symm

/-- Where it is not to run, a run whose stop kills leaves no service. -/
theorem service_of_off (documented : system.Documented) (off : run.classes.sipxsbc = false)
    (stop : (run.calls .stop).killproc = true) :
    (Agent.sipxsbc system run host).service = none := by
  have stops : run.stops = true := by rw [AgentRun.stops, off]; rfl
  have stays : run.restarts host = false := by rw [AgentRun.restarts, off]; rfl
  rw [← Option.not_isSome_iff_eq_none, running_after_stop_iff documented host stops, stop, stays]
  simp

theorem not_overtakes_of_kills (kills : (run.calls .restart).killproc = true) :
    ¬ run.Overtakes host := by
  intro overtakes
  rw [overtakes.2.2.2.2] at kills
  cases kills

theorem noneOvertakes_of_kills {events : List HostEvent}
    (kills : ∀ run, .agent run ∈ events → (run.calls .restart).killproc = true) :
    NoneOvertakes system events host := by
  induction events generalizing host with
  | nil => trivial
  | cons event events ih =>
    refine ⟨?_, ih fun run member => kills run (List.mem_cons_of_mem event member)⟩
    intro run same
    exact not_overtakes_of_kills (kills run (same ▸ List.mem_cons_self))

end Turn

/-- Turns whose restarts kill overtake no service. -/
theorem noneOvertakes_eventsOn {Location Dir Settings : Type} [DecidableEq Location]
    [DecidableEq Dir] {layout : Layout Location Dir} {location : Location}
    {events : List (ClusterEvent Location Dir Settings)} {c : Cluster Location Dir} {host : Host}
    (kills : ∀ turn, .agent location turn ∈ events → (turn.calls .restart).killproc = true) :
    NoneOvertakes layout.system (c.eventsOn layout location events) host := by
  apply noneOvertakes_of_kills
  intro run member
  obtain ⟨turn, folder, happened, rfl⟩ := mem_eventsOn_agent member
  exact kills turn happened

/-! ## No further replication -/

section Quiet

variable {Location Dir Settings : Type} [DecidableEq Location] [DecidableEq Dir]
  {layout : Layout Location Dir} {location : Location} {c : Cluster Location Dir}
  {event : ClusterEvent Location Dir Settings}
  {events : List (ClusterEvent Location Dir Settings)}

theorem dirs_apply (quiet : ∀ r, event ≠ .replicate r) : (event.apply layout c).dirs = c.dirs := by
  cases event with
  | replicate r => exact absurd rfl (quiet r)
  | fetch _ _ => rfl
  | agent _ _ => rfl
  | crash _ => rfl
  | byHand _ _ _ => rfl

theorem dirs_after (quiet : ∀ r, .replicate r ∉ events) :
    (c.after layout events).dirs = c.dirs := by
  induction events generalizing c with
  | nil => rfl
  | cons event events ih =>
    have here : ∀ r, event ≠ .replicate r := fun r same => quiet r (same ▸ List.mem_cons_self)
    have rest := ih (c := event.apply layout c)
      fun r member => quiet r (List.mem_cons_of_mem event member)
    exact rest.trans (dirs_apply here)

/-- The copy of a file at a location is the file as it is on the server. -/
def Cluster.Copied (layout : Layout Location Dir) (location : Location) (name : String)
    (c : Cluster Location Dir) : Prop :=
  c.copies location name = c.dirs (layout.directory location) name

theorem copied_fetch (name : String) :
    ((ClusterEvent.fetch location name : ClusterEvent Location Dir Settings).apply layout c).Copied
      layout location name := by
  change Function.update c.copies location _ location name = _
  rw [Function.update_self, Function.update_self]
  rfl

theorem copied_apply {name : String} (copied : c.Copied layout location name)
    (quiet : ∀ r, event ≠ .replicate r) :
    (event.apply layout c).Copied layout location name := by
  unfold Cluster.Copied
  rw [dirs_apply quiet]
  cases event with
  | replicate r => exact absurd rfl (quiet r)
  | fetch there other =>
    change Function.update c.copies there _ location name = _
    by_cases here : location = there
    · subst here
      rw [Function.update_self]
      by_cases same : name = other
      · subst same
        rw [Function.update_self]
      · rw [Function.update_of_ne same]
        exact copied
    · rw [Function.update_of_ne here]
      exact copied
  | agent _ _ => exact copied
  | crash _ => exact copied
  | byHand _ _ _ => exact copied

/-- A file that was fetched since the last replication is there as it is on the server. -/
theorem copied_after {name : String} (quiet : ∀ r, .replicate r ∉ events)
    (fetched : c.Copied layout location name ∨ .fetch location name ∈ events) :
    (c.after layout events).Copied layout location name := by
  induction events generalizing c with
  | nil =>
    rcases fetched with copied | member
    · exact copied
    · cases member
  | cons event events ih =>
    apply ih (c := event.apply layout c)
      fun r member => quiet r (List.mem_cons_of_mem event member)
    rcases fetched with copied | member
    · exact .inl (copied_apply copied fun r same => quiet r (same ▸ List.mem_cons_self))
    · rcases List.mem_cons.mp member with rfl | later
      · exact .inl (copied_fetch name)
      · exact .inr later

/-- Something happens on the host of the location. -/
def ClusterEvent.Touches (location : Location) : ClusterEvent Location Dir Settings → Prop
  | replicate _ => False
  | fetch _ _ => False
  | agent there _ => there = location
  | crash there => there = location
  | byHand there _ _ => there = location

omit [DecidableEq Dir] in
theorem on_of_not_touches (untouched : ¬ event.Touches location) :
    event.on layout location c = [] := by
  cases event with
  | replicate _ => rfl
  | fetch _ _ => rfl
  | agent _ _ => exact if_neg untouched
  | crash _ => exact if_neg untouched
  | byHand _ _ _ => exact if_neg untouched

theorem hosts_of_untouched (untouched : ∀ event ∈ events, ¬ event.Touches location) :
    (c.after layout events).hosts location = c.hosts location := by
  induction events generalizing c with
  | nil => rfl
  | cons event events ih =>
    have rest := ih (c := event.apply layout c)
      fun event' member => untouched event' (List.mem_cons_of_mem event member)
    refine rest.trans ?_
    change afterEvents layout.system (event.on layout location c) (c.hosts location) = _
    rw [on_of_not_touches (untouched event List.mem_cons_self)]
    rfl

/-- The turn is the last that happened on the host of its location, and came after its two files
were fetched. -/
def Finished (location : Location) (turn : AgentTurn)
    (events : List (ClusterEvent Location Dir Settings)) : Prop :=
  ∃ before rest, events = before ++ .agent location turn :: rest ∧
    .fetch location "sipxsbc.cfdat" ∈ before ∧ .fetch location "sipxsbc.ini.part" ∈ before ∧
    ∀ event ∈ rest, ¬ event.Touches location

/-- What a finished location is left with: its last turn on the files that are on the server,
taken on a host that was fresh if none overtook it. -/
theorem host_of_finished (documented : layout.system.Documented) {turn : AgentTurn}
    (finished : Finished location turn events)
    (quiet : ∀ r, .replicate r ∉ events) (fresh : (c.hosts location).Fresh)
    (kills : NoneOvertakes layout.system (c.eventsOn layout location events) (c.hosts location)) :
    ∃ host : Host, host.Fresh ∧
      (c.after layout events).hosts location =
        Agent.sipxsbc layout.system (turn.run layout (c.dirs (layout.directory location)))
          host := by
  obtain ⟨before, rest, rfl, class_, part, untouched⟩ := finished
  have quietBefore : ∀ r, .replicate r ∉ before :=
    fun r member => quiet r (List.mem_append_left _ member)
  have found : turn.run layout ((c.after layout before).copies location) =
      turn.run layout (c.dirs (layout.directory location)) := by
    have copiedClass : (c.after layout before).Copied layout location "sipxsbc.cfdat" :=
      copied_after quietBefore (.inr class_)
    have copiedPart : (c.after layout before).Copied layout location "sipxsbc.ini.part" :=
      copied_after quietBefore (.inr part)
    unfold Cluster.Copied at copiedClass copiedPart
    rw [dirs_after quietBefore] at copiedClass copiedPart
    unfold AgentTurn.run
    rw [copiedClass, copiedPart]
  refine ⟨(c.after layout before).hosts location, ?_, ?_⟩
  · rw [c.hosts_after]
    rw [c.eventsOn_append] at kills
    exact fresh_after documented fresh kills
  · let last : ClusterEvent Location Dir Settings := .agent location turn
    have split : c.after layout (before ++ last :: rest) =
        (last.apply layout (c.after layout before)).after layout rest := by
      rw [c.after_append]
      rfl
    rw [split, hosts_of_untouched untouched, ← found]
    change afterEvents layout.system (if location = location then _ else []) _ = _
    rw [if_pos rfl]
    rfl

end Quiet

/-! ## The rollout -/

section Rollout

variable {Dir : Type} [DecidableEq Dir] {layout : Layout Location Dir}
  {r : Replication Location Dir ModelSettings} {location : Location}

/-- The service of a location has read the lines of a configuration, and main makes of them what
is configured. -/
structure Serves (reader : List String → ParseOutcome) (toAddresses : ToAddresses)
    (config : SipxsbcConfig Location Dir ModelSettings) (location : Location) (vars : SipxVars)
    (host : Host) : Prop where
  service : host.service = some ((deployedEntries location.address location.publicAddress
    config.settings vars).map entryText)
  configured : ∀ lines process path, host.service = some lines → configPath process = .ok path →
    process.files path = reader lines →
      RunsAsConfigured toAddresses config.settings location vars process

/-- What the addresses of a location have to be for its service to be told them. -/
structure Addressed (config : SipxsbcConfig Location Dir ModelSettings) (location : Location)
    (vars : SipxVars) : Prop where
  address : config.getAddress location = some location.address
  nonempty : location.address ≠ ""
  external : config.getPublicAddress location = some location.publicAddress
  texts : PlainTexts location.address location.publicAddress vars

omit [DecidableEq Dir] in
/-- A turn on the files of the server has the class that the replication set. -/
theorem class_found (directory : r.config.manager.getLocationDataDirectory = layout.directory)
    (reads : r.config.utils.classEnabled = layout.classEnabled) (turn : AgentTurn)
    (dirs : Dir → Folder) :
    (turn.run layout (dirs (layout.directory location))).classes.sipxsbc =
      r.config.utils.classIn (dirs (r.config.manager.getLocationDataDirectory location))
        "sipxsbc.cfdat" "sipxsbc" := by
  rw [directory, ConfigUtils.classIn, reads]
  rfl

/-- **A replication that returned comes through.** Whatever happens after it on the server, short
of another replication, on the way to the hosts and on them: a location whose files were
fetched, whose agent then had a turn that succeeded, and whose service was never overtaken, runs
what is configured for it if it has the feature, and nothing if it has not. -/
theorem rollout_converges {reader : List String → ParseOutcome} {toAddresses : ToAddresses}
    (documented : Documented layout.system r.config reader toAddresses)
    (directory : r.config.manager.getLocationDataDirectory = layout.directory)
    (reads : r.config.utils.classEnabled = layout.classEnabled)
    (applies : r.request.applies SIPXSBC_FEATURE = true) {c : Cluster Location Dir}
    {dirs' : Dir → Folder}
    (returned : r.config.replicate r.request r.iteration c.dirs = .ok () dirs')
    (member : location ∈ r.request.locations)
    {later : List (ClusterEvent Location Dir ModelSettings)} (quiet : ∀ r', .replicate r' ∉ later)
    {turn : AgentTurn} (finished : Finished location turn later) (succeeds : turn.Succeeds)
    (fresh : (c.hosts location).Fresh)
    (kills : NoneOvertakes layout.system (c.eventsOn layout location (.replicate r :: later))
      (c.hosts location)) :
    let host := (c.after layout (.replicate r :: later)).hosts location
    (r.config.enabled location = false → host.service = none) ∧
      (r.config.enabled location = true → r.config.ClosesWhole location →
        Addressed r.config location turn.vars →
          Serves reader toAddresses r.config location turn.vars host) := by
  intro host
  have dirs : ((ClusterEvent.replicate r).apply layout c).dirs = dirs' := by
    change left (r.config.replicate r.request r.iteration c.dirs) = dirs'
    rw [returned]
    rfl
  obtain ⟨found, freshFound, last⟩ :=
    @host_of_finished _ _ _ _ _ _ _ ((ClusterEvent.replicate r).apply layout c) _
      documented.functions _ finished quiet
      fresh kills
  rw [dirs] at last
  obtain ⟨_, configured⟩ := SipxsbcConfig.configured_of_replicate documented.directories
    documented.setsClass applies returned member
  have class_ := @class_found _ layout r location directory reads turn dirs'
  have ran : host =
      Agent.sipxsbc layout.system (turn.run layout (dirs' (layout.directory location))) found :=
    last
  refine ⟨?_, ?_⟩
  · intro off
    rw [ran]
    exact service_of_off documented.functions (class_.trans (configured.class_eq.trans off))
      succeeds.stop
  · intro on whole addressed
    have running : (Agent.sipxsbc layout.system
        (turn.run layout (dirs' (layout.directory location))) found).service = some _ :=
      service_of_succeeds documented.functions (class_.trans (configured.class_eq.trans on))
        succeeds.runs succeeds.start succeeds.restart freshFound
    have out : RolledOut layout.system r.config location
        (turn.run layout (dirs' (layout.directory location))) found _ :=
      { replicated := ⟨r.request, r.iteration, c.dirs, dirs', applies, member, returned, class_, by
          rw [directory]
          rfl⟩
        enabled := on
        whole := whole
        fresh := freshFound
        kills := not_overtakes_of_kills succeeds.restart.1
        running := running }
    have lines := lines_of_rolledOut documented out addressed.address addressed.external
      addressed.texts
    refine ⟨?_, ?_⟩
    · rw [ran, running, lines]
      rfl
    · intro lines' process path read path_ file
      rw [ran, running] at read
      cases read
      obtain ⟨options, parsed, written⟩ := written_of_rolledOut documented out addressed.address
        addressed.external addressed.texts path_ file
      exact runsAsConfigured_of_asWritten documented.toAddresses parsed written addressed.nonempty

end Rollout

/-! ## Two locations, one with the feature -/

section Offices

def branch : Location := ⟨"10.2.1.5", "47.135.162.73"⟩

/-- Only the office has the feature. -/
def officesConfig : SipxsbcConfig Location Location ModelSettings :=
  { officeConfig with manager := ⟨fun location => location, fun _ location => location == office⟩ }

theorem office_not_branch : office ∉ ({branch} : Finset Location) := by decide

def offices : Replication Location Location ModelSettings where
  config := officesConfig
  request := ⟨fun _ => true, {office, branch}⟩
  iteration := ⟨[office, branch], (Finset.insert_val_of_notMem office_not_branch).symm⟩

def officesLayout : Layout Location Location :=
  ⟨fun location => location, SipxsbcConfig.lineUtils.classEnabled, plainFunctions⟩

/-- Before the first replication. -/
def emptyCluster : Cluster Location Location :=
  ⟨fun _ _ => none, fun _ _ => none, fun _ => ⟨none, none⟩⟩

def officeTurn : AgentTurn where
  vars := officeRun.vars
  stopSipxecs := false
  restartSipxecs := false
  modeRepaired := false
  calls _ := ⟨true, true, true, true, true⟩

theorem officeTurn_succeeds : officeTurn.Succeeds := ⟨rfl, rfl, rfl, rfl, rfl⟩

/-- A service that was started on the class alone has read no part file. -/
theorem services_own_offices :
    let copied : Folder := Function.update (fun _ => none) "sipxsbc.cfdat" (some "+sipxsbc".toList)
    let c : Cluster Location Location := { emptyCluster with copies := fun _ => copied }
    let events := [.replicate offices, .agent office officeTurn, .crash branch]
    let lines := iniContents officeTurn.vars none
    (c.hosts office).ini = some lines ∨ (c.hosts office).service = some lines ∨
      ∃ turn part, .agent office turn ∈ events ∧ c.PartOf officesLayout events office part ∧
        lines = iniContents turn.vars part := by
  intro copied c events lines
  have sound : ∀ r, .replicate r ∈ events → r = offices := by
    intro r member
    simpa [events] using member
  apply services_own plainFunctions_documented (fun _ _ same => same) events c ?_ ?_ rfl
  · intro r member
    rw [sound r member]
    rfl
  · intro r member
    rw [sound r member]
    exact SipxsbcConfig.lineUtils_keepsToDatfile

/-- The agent of the office runs too early, on the class alone, and once more when its service
has crashed and the part file is there. -/
def officesLater : List (ClusterEvent Location Location ModelSettings) :=
  [.fetch office "sipxsbc.cfdat", .agent office officeTurn, .fetch branch "sipxsbc.cfdat",
    .crash office, .fetch office "sipxsbc.ini.part", .fetch branch "sipxsbc.ini.part",
    .agent office officeTurn, .agent branch officeTurn, .fetch office "sipxsbc.ini.part"]

theorem offices_documented : Documented plainFunctions officesConfig entryReader
    fun type locations port => locations.map fun location => ⟨type, location.address, port, none⟩ :=
  ⟨plainFunctions_documented, fun _ _ same => same, office_documented.setsClass,
    office_documented.writes, office_documented.reads, office_documented.toAddresses⟩

theorem offices_returned : ∃ dirs', officesConfig.replicate offices.request offices.iteration
    emptyCluster.dirs = .ok () dirs' := by
  apply SipxsbcConfig.replicate_returns offices_documented.directories
    offices_documented.setsClass rfl offices.iteration
  intro location _ throws
  rcases throws with ⟨exception, folder', threw⟩ | ⟨_, closed | ⟨i, _, n, failed⟩⟩
  · cases threw
  · cases closed
  · cases failed

/-- The office runs the service, and the branch does not. -/
theorem rollout_converges_offices :
    let c := emptyCluster.after officesLayout (.replicate offices :: officesLater)
    (c.hosts branch).service = none ∧
      Serves entryReader
        (fun type locations port =>
          locations.map fun location => ⟨type, location.address, port, none⟩)
        officesConfig office officeTurn.vars (c.hosts office) := by
  intro c
  obtain ⟨dirs', returned⟩ := offices_returned
  have quiet : ∀ r', .replicate r' ∉ officesLater := by
    intro r' member
    simp [officesLater] at member
  have kills : ∀ location turn, .agent location turn ∈ .replicate offices :: officesLater →
      (turn.calls .restart).killproc = true := by
    intro location turn member
    simp only [officesLater, List.mem_cons, reduceCtorEq, ClusterEvent.agent.injEq,
      List.not_mem_nil, false_or, or_false] at member
    rcases member with ⟨-, rfl⟩ | ⟨-, rfl⟩ | ⟨-, rfl⟩ <;> rfl
  have atBranch : Finished branch officeTurn officesLater := by
    refine ⟨officesLater.take 7, [.fetch office "sipxsbc.ini.part"], rfl, ?_, ?_, ?_⟩
    · simp [officesLater]
    · simp [officesLater]
    · simp [ClusterEvent.Touches]
  have atOffice : Finished office officeTurn officesLater := by
    refine ⟨officesLater.take 6,
      [.agent branch officeTurn, .fetch office "sipxsbc.ini.part"], rfl, ?_, ?_, ?_⟩
    · simp [officesLater]
    · simp [officesLater]
    · have other : branch ≠ office := by decide
      simp [ClusterEvent.Touches, other]
  refine ⟨?_, ?_⟩
  · exact (rollout_converges offices_documented rfl rfl rfl returned
      (Finset.mem_insert_of_mem (Finset.mem_singleton_self branch)) quiet atBranch
      officeTurn_succeeds (Host.fresh_of_down rfl) (noneOvertakes_eventsOn (kills branch))).1 rfl
  · refine (rollout_converges offices_documented rfl rfl rfl returned
      (Finset.mem_insert_self office _) quiet atOffice officeTurn_succeeds
      (Host.fresh_of_down rfl) (noneOvertakes_eventsOn (kills office))).2 rfl ?_ ?_
    · intro n closed
      cases closed
    · exact ⟨rfl, by decide, rfl, office_texts⟩

end Offices

end SipXsbc
