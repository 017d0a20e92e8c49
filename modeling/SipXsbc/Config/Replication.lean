import SipXsbc.Basic
import SipXsbc.Keyed.BufferedWriter
import SipXsbc.Keyed.Cells
import Mathlib.Data.Finset.Basic

/-!
# Replicating the configuration

What the administration server leaves in the data directories of the locations.
`replicate` visits the locations one by one: it turns the `sipxsbc` class of the
location on or off and, where the feature is enabled, writes the part file anew. The
part file is closed quietly, so a close that fails is not seen: a replication that
returns has written everything unless such a close leaves text in the writer.
-/

namespace SipXsbc

open Keyed

/-! ## What the replication is given -/

/-- Where an `IOException` comes from. -/
inductive IOException
  | enableCfengineClass
  | openFile
  | write
  deriving DecidableEq

/-- The files of a directory, by name. -/
abbrev Folder := String → Option (List Char)

variable {Location Dir Settings : Type}

structure ConfigManager (Location Dir : Type) where
  getLocationDataDirectory : Location → Dir
  isFeatureEnabled : String → Location → Bool

/-- `locations` is the set of the request; a run iterates over it in some order. -/
structure ConfigRequest (Location : Type) where
  applies : String → Bool
  locations : Finset Location

/-- An order in which an iteration over a set finds its elements. -/
structure IterationOrder {Location : Type} (locations : Finset Location) where
  order : List Location
  enumerates : (order : Multiset Location) = locations.val

theorem IterationOrder.mem_iff {locations : Finset Location} (iteration : IterationOrder locations)
    (location : Location) : location ∈ iteration.order ↔ location ∈ locations := by
  rcases iteration with ⟨order, enumerates⟩
  rw [Finset.mem_def, ← enumerates, Multiset.mem_coe]

theorem IterationOrder.nodup {locations : Finset Location}
    (iteration : IterationOrder locations) : iteration.order.Nodup := by
  rcases iteration with ⟨order, enumerates⟩
  rw [← Multiset.coe_nodup, enumerates]
  exact locations.nodup

/-- `enableCfengineClass` gets the data file, the setting and the class, and works in one
directory. `classEnabled` is how the text of a data file is read. -/
structure ConfigUtils where
  enableCfengineClass : String → Bool → String → EStateM IOException Folder Unit
  classEnabled : String → List Char → Bool

def ConfigUtils.classIn (utils : ConfigUtils) (folder : Folder) (datfile cls : String) : Bool :=
  (folder datfile).any (utils.classEnabled cls)

/-- A class that was set without an exception is set. -/
def ConfigUtils.SetsClass (utils : ConfigUtils) : Prop :=
  ∀ datfile enabled cls folder folder',
    utils.enableCfengineClass datfile enabled cls folder = .ok () folder' →
      utils.classIn folder' datfile cls = enabled

/-- The texts a configuration hands to its writer, call by call. It does not flush. -/
structure KeyValueConfiguration (Settings : Type) where
  write : String → Option String → List (List Char)
  writeSettings : Settings → List (List Char)

/-- What the calls on one part file come to. `close` is `none` for a close that passes
on all there is in the writer, or how much of it a failing close passes on. -/
structure FileIo where
  opens : Bool
  write : Nat → WriteOutcome
  close : Option Nat

/-- The configuration provider with what it works on, and with the failures it meets. -/
structure SipxsbcConfig (Location Dir Settings : Type) where
  manager : ConfigManager Location Dir
  getAddress : Location → Option String
  getPublicAddress : Location → Option String
  utils : ConfigUtils
  equalsSeparated : KeyValueConfiguration Settings
  settings : Settings
  io : Location → FileIo

def SIPXSBC_FEATURE : String := "sipxsbc"

namespace SipxsbcConfig

variable (config : SipxsbcConfig Location Dir Settings)

def enabled (location : Location) : Bool :=
  config.manager.isFeatureEnabled SIPXSBC_FEATURE location

/-! ## The replication -/

/-- `IOUtils.closeQuietly`: the exception of a failing close is discarded. -/
def closeQuietly (io : FileIo) (wtr : BufferedWriter Char) : EStateM IOException Folder Unit :=
  modify fun folder => Function.update folder "sipxsbc.ini.part" (some (wtr.closed io.close))

/-- The writes in the `try` block. -/
def writeConfig (location : Location) : EStateM IOException (BufferedWriter Char) Unit := do
  let io := config.io location
  BufferedWriter.writeAll io.write .write
    (config.equalsSeparated.write "listener-address" (config.getAddress location))
  BufferedWriter.writeAll io.write .write
    (config.equalsSeparated.write "external-address" (config.getPublicAddress location))
  BufferedWriter.writeAll io.write .write (config.equalsSeparated.writeSettings config.settings)

/-- The part file of one location. Opening it for writing empties it; the `finally` block
closes it, and what the `try` block threw is thrown on. -/
def writePart (location : Location) : EStateM IOException Folder Unit := do
  let io := config.io location
  if !io.opens then
    throw .openFile
  modify fun folder => Function.update folder "sipxsbc.ini.part" (some [])
  match config.writeConfig location .fresh with
  | .ok _ wtr => closeQuietly io wtr
  | .error exception wtr =>
    closeQuietly io wtr
    throw exception

/-- The body of the loop, in the data directory of its location. -/
def replicateAt (location : Location) : EStateM IOException Folder Unit := do
  config.utils.enableCfengineClass "sipxsbc.cfdat" (config.enabled location) "sipxsbc"
  if !config.enabled location then
    return
  config.writePart location

def replicate [DecidableEq Dir] (request : ConfigRequest Location)
    (iteration : IterationOrder request.locations) : EStateM IOException (Dir → Folder) Unit := do
  if !request.applies SIPXSBC_FEATURE then
    return
  forM iteration.order fun location =>
    onCell (config.manager.getLocationDataDirectory location) (config.replicateAt location)

/-! ## What it is for -/

/-- The calls on the writer of a part file. -/
def partWrites (location : Location) : List (List Char) :=
  config.equalsSeparated.write "listener-address" (config.getAddress location) ++
    config.equalsSeparated.write "external-address" (config.getPublicAddress location) ++
    config.equalsSeparated.writeSettings config.settings

/-- A complete part file: the two addresses of the location, then all settings. -/
def partText (location : Location) : List Char := (config.partWrites location).flatten

/-- The configuration of every location of the request is in its own directory, and the
other locations are left alone. -/
structure Replicated (request : ConfigRequest Location) (dirs dirs' : Dir → Folder) : Prop where
  class_eq : ∀ location ∈ request.locations,
    config.utils.classIn (dirs' (config.manager.getLocationDataDirectory location))
      "sipxsbc.cfdat" "sipxsbc" = config.enabled location
  part_eq : ∀ location ∈ request.locations, config.enabled location = true →
    dirs' (config.manager.getLocationDataDirectory location) "sipxsbc.ini.part" =
      some (config.partText location)
  outside : ∀ location, location ∉ request.locations →
    dirs' (config.manager.getLocationDataDirectory location) =
      dirs (config.manager.getLocationDataDirectory location)

/-- Opening the part file or one of the writes to it throws. -/
def PartThrows (location : Location) : Prop :=
  (config.io location).opens = false ∨
    BufferedWriter.FailsWithin (config.io location).write 0 (config.partWrites location).length

/-- An exception at a location that is thrown on to the caller. -/
def Throws (location : Location) (folder : Folder) : Prop :=
  (∃ exception folder', config.utils.enableCfengineClass "sipxsbc.cfdat"
      (config.enabled location) "sipxsbc" folder = .error exception folder') ∨
    config.enabled location = true ∧ config.PartThrows location

/-- How much text is still in the writer when the part file is closed. -/
def stillBuffered (location : Location) : Nat :=
  BufferedWriter.pending (config.io location).write 0 0
    ((config.partWrites location).map List.length)

/-- The close passes on what is still in the writer, whether it fails or not. -/
def ClosesWhole (location : Location) : Prop :=
  ∀ n, (config.io location).close = some n → config.stillBuffered location ≤ n

/-! ## One location -/

section Location

variable {config} {location : Location} {folder folder' : Folder}

theorem writeConfig_eq (location : Location) :
    config.writeConfig location =
      BufferedWriter.writeAll (config.io location).write .write (config.partWrites location) := by
  rw [partWrites, BufferedWriter.writeAll_append, BufferedWriter.writeAll_append, bind_assoc]
  rfl

theorem closeQuietly_ok (io : FileIo) (wtr : BufferedWriter Char) (folder : Folder) :
    closeQuietly io wtr folder =
      .ok () (Function.update folder "sipxsbc.ini.part" (some (wtr.closed io.close))) := rfl

/-- The part file is written unless opening it or a write throws. A close that fails does
not show. -/
theorem writePart_cases (config : SipxsbcConfig Location Dir Settings) (location : Location)
    (folder : Folder) :
    (¬ config.PartThrows location ∧ ∃ wtr : BufferedWriter Char,
      wtr.text = config.partText location ∧
      wtr.buffered.length = config.stillBuffered location ∧
      config.writePart location folder = .ok () (Function.update folder "sipxsbc.ini.part"
        (some (wtr.closed (config.io location).close)))) ∨
    (config.PartThrows location ∧
      ∃ exception folder', config.writePart location folder = .error exception folder') := by
  unfold writePart PartThrows
  cases opens : (config.io location).opens with
  | false => exact .inr ⟨.inl rfl, .openFile, folder, rfl⟩
  | true =>
    rw [writeConfig_eq]
    rcases BufferedWriter.writeAll_cases (config.io location).write IOException.write
      (config.partWrites location) .fresh with ⟨wtr, ran, none, wrote⟩ | ⟨wtr, threw, some⟩
    · refine .inl ⟨?_, wtr, ?_, ?_, ?_⟩
      · intro throws
        rcases throws with closed | fails
        · cases closed
        · exact none fails
      · rw [wrote.text_eq]
        rfl
      · exact wrote.buffered_eq
      · rw [ran]
        change closeQuietly (config.io location) wtr
          (Function.update folder "sipxsbc.ini.part" (some [])) = _
        rw [closeQuietly_ok, Function.update_idem]
    · refine .inr ⟨.inr some, ?_⟩
      rw [threw]
      exact ⟨.write, _, rfl⟩

/-- What the loop body leaves in the directory of its location. -/
structure Configured (config : SipxsbcConfig Location Dir Settings) (location : Location)
    (folder : Folder) : Prop where
  class_eq : config.utils.classIn folder "sipxsbc.cfdat" "sipxsbc" = config.enabled location
  part_iff : config.enabled location = true →
    (folder "sipxsbc.ini.part" = some (config.partText location) ↔ config.ClosesWhole location)

/-- The loop body throws or has set the class, and then the part file of an enabled
location is complete when its close passed on what was left. -/
theorem replicateAt_cases (setsClass : config.utils.SetsClass) (location : Location)
    (folder : Folder) :
    (¬ config.Throws location folder ∧ ∃ folder',
      config.replicateAt location folder = .ok () folder' ∧ config.Configured location folder') ∨
    (config.Throws location folder ∧
      ∃ exception folder', config.replicateAt location folder = .error exception folder') := by
  unfold replicateAt Throws
  cases first : config.utils.enableCfengineClass "sipxsbc.cfdat" (config.enabled location)
      "sipxsbc" folder with
  | error exception folder' =>
    exact .inr ⟨.inl ⟨exception, folder', rfl⟩, exception, folder', bind_of_error first⟩
  | ok u mid =>
    have set := setsClass _ _ _ _ _ first
    rw [bind_of_ok first]
    cases on : config.enabled location with
    | false =>
      refine .inl ⟨?_, mid, rfl, ?_, ?_⟩
      · intro thrown
        rcases thrown with ⟨exception, folder', threw⟩ | ⟨enabled, _⟩
        · cases threw
        · cases enabled
      · exact set
      · intro enabled
        rw [on] at enabled
        cases enabled
    | true =>
      rcases writePart_cases config location mid with
        ⟨none, wtr, text, left, wrote⟩ | ⟨throws, exception, folder', threw⟩
      · refine .inl ⟨?_, _, wrote, ?_, ?_⟩
        · intro thrown
          rcases thrown with ⟨exception, folder', threw⟩ | ⟨_, throws⟩
          · cases threw
          · exact none throws
        · rw [← set]
          unfold ConfigUtils.classIn
          rw [Function.update_of_ne (by decide)]
        · intro _
          rw [Function.update_self, Option.some.injEq, ← text,
            BufferedWriter.closed_eq_text_iff, left]
          rfl
      · exact .inr ⟨.inr ⟨rfl, throws⟩, exception, folder', threw⟩

end Location

/-! ## All locations -/

section Run

variable [DecidableEq Dir] {config} {request : ConfigRequest Location} {dirs dirs' : Dir → Folder}

/-- With a directory for every location, a replication that returns is the loop body
taken at each location of the set, whatever the order. -/
theorem replicate_ok_iff (own : Function.Injective config.manager.getLocationDataDirectory)
    (applies : request.applies SIPXSBC_FEATURE = true)
    (iteration : IterationOrder request.locations) :
    config.replicate request iteration dirs = .ok () dirs' ↔
      Passed config.manager.getLocationDataDirectory config.replicateAt iteration.order
        dirs dirs' := by
  unfold replicate
  rw [applies]
  exact pass_ok_iff (iteration.nodup.map own)

theorem replicate_ok_of_iteration
    (own : Function.Injective config.manager.getLocationDataDirectory)
    (applies : request.applies SIPXSBC_FEATURE = true)
    (iteration iteration' : IterationOrder request.locations)
    (returned : config.replicate request iteration dirs = .ok () dirs') :
    config.replicate request iteration' dirs = .ok () dirs' := by
  rw [replicate_ok_iff own applies] at returned ⊢
  apply returned.congr
  intro location
  rw [iteration.mem_iff, iteration'.mem_iff]

/-- A replication that returns has met no exception, and has configured every location. -/
theorem configured_of_replicate
    (own : Function.Injective config.manager.getLocationDataDirectory)
    (setsClass : config.utils.SetsClass) (applies : request.applies SIPXSBC_FEATURE = true)
    {iteration : IterationOrder request.locations}
    (returned : config.replicate request iteration dirs = .ok () dirs')
    {location : Location} (member : location ∈ request.locations) :
    ¬ config.Throws location (dirs (config.manager.getLocationDataDirectory location)) ∧
      config.Configured location
        (dirs' (config.manager.getLocationDataDirectory location)) := by
  have passed := (replicate_ok_iff own applies iteration).mp returned
  have stepped := passed.at_item location ((iteration.mem_iff location).mpr member)
  rcases replicateAt_cases setsClass location
    (dirs (config.manager.getLocationDataDirectory location)) with
    ⟨none, folder', ran, configured⟩ | ⟨_, exception, folder', threw⟩
  · rw [stepped] at ran
    cases ran
    exact ⟨none, configured⟩
  · rw [stepped] at threw
    cases threw

theorem replicate_returns (own : Function.Injective config.manager.getLocationDataDirectory)
    (setsClass : config.utils.SetsClass) (applies : request.applies SIPXSBC_FEATURE = true)
    (iteration : IterationOrder request.locations)
    (none : ∀ location ∈ request.locations,
      ¬ config.Throws location (dirs (config.manager.getLocationDataDirectory location))) :
    ∃ dirs', config.replicate request iteration dirs = .ok () dirs' := by
  have steps : ∀ location ∈ iteration.order, ∃ folder', config.replicateAt location
      (dirs (config.manager.getLocationDataDirectory location)) = .ok () folder' := by
    intro location member
    rcases replicateAt_cases setsClass location
      (dirs (config.manager.getLocationDataDirectory location)) with
      ⟨_, folder', ran, _⟩ | ⟨throws, _⟩
    · exact ⟨folder', ran⟩
    · exact absurd throws (none location ((iteration.mem_iff location).mp member))
  obtain ⟨dirs', passed⟩ := exists_passed (iteration.nodup.map own) steps
  exact ⟨dirs', (replicate_ok_iff own applies iteration).mpr passed⟩

/-- A replication that returns has written everything when every part file was closed
whole. -/
theorem replicated_iff (own : Function.Injective config.manager.getLocationDataDirectory)
    (setsClass : config.utils.SetsClass) (applies : request.applies SIPXSBC_FEATURE = true)
    {iteration : IterationOrder request.locations}
    (returned : config.replicate request iteration dirs = .ok () dirs') :
    config.Replicated request dirs dirs' ↔
      ∀ location ∈ request.locations, config.enabled location = true →
        config.ClosesWhole location := by
  have configured := fun location => fun member : location ∈ request.locations =>
    (configured_of_replicate own setsClass applies returned member).2
  refine ⟨?_, ?_⟩
  · intro replicated location member enabled
    rw [← (configured location member).part_iff enabled]
    exact replicated.part_eq location member enabled
  · intro whole
    refine ⟨?_, ?_, ?_⟩
    · intro location member
      exact (configured location member).class_eq
    · intro location member enabled
      exact ((configured location member).part_iff enabled).mpr (whole location member enabled)
    · intro location outside
      apply ((replicate_ok_iff own applies iteration).mp returned).elsewhere
      intro other member same
      rw [own same] at member
      exact outside ((iteration.mem_iff location).mp member)

/-- A replication that returns has written everything, and the same in every order,
exactly when it cannot return because of an exception that is thrown on, or every close
passes on what the writer still holds. -/
theorem replicate_writes_everything_iff (config : SipxsbcConfig Location Dir Settings)
    (own : Function.Injective config.manager.getLocationDataDirectory)
    (setsClass : config.utils.SetsClass) (request : ConfigRequest Location)
    (iteration : IterationOrder request.locations) (dirs : Dir → Folder) :
    (request.applies SIPXSBC_FEATURE = true →
      ∀ dirs', config.replicate request iteration dirs = .ok () dirs' →
        config.Replicated request dirs dirs' ∧
        ∀ iteration' : IterationOrder request.locations,
          config.replicate request iteration' dirs = .ok () dirs') ↔
    (request.applies SIPXSBC_FEATURE = true →
      (∃ location ∈ request.locations,
        config.Throws location (dirs (config.manager.getLocationDataDirectory location))) ∨
      ∀ location ∈ request.locations, config.enabled location = true →
        config.ClosesWhole location) := by
  refine ⟨?_, ?_⟩
  · intro complete applies
    by_cases throws : ∃ location ∈ request.locations,
        config.Throws location (dirs (config.manager.getLocationDataDirectory location))
    · exact .inl throws
    · right
      have none : ∀ location ∈ request.locations, ¬ config.Throws location
          (dirs (config.manager.getLocationDataDirectory location)) := by
        intro location member threw
        exact throws ⟨location, member, threw⟩
      obtain ⟨dirs', returned⟩ := replicate_returns own setsClass applies iteration none
      rw [← replicated_iff own setsClass applies returned]
      exact (complete applies dirs' returned).1
  · intro holds applies dirs' returned
    refine ⟨?_, fun iteration' =>
      replicate_ok_of_iteration own applies iteration iteration' returned⟩
    rw [replicated_iff own setsClass applies returned]
    rcases holds applies with ⟨location, member, throws⟩ | whole
    · exact absurd throws (configured_of_replicate own setsClass applies returned member).1
    · exact whole

end Run

/-! ## Two locations, one of them with the feature -/

section TwoLocations

/-- The data file holds one line, the class after a sign. -/
def lineUtils : ConfigUtils where
  enableCfengineClass datfile enabled cls := modify fun folder =>
    Function.update folder datfile (some ((if enabled then '+' else '-') :: cls.toList))
  classEnabled cls text := text == '+' :: cls.toList

theorem lineUtils_setsClass : lineUtils.SetsClass := by
  intro datfile enabled cls folder folder' returned
  have set : folder' datfile = some ((if enabled then '+' else '-') :: cls.toList) := by
    cases returned
    exact Function.update_self ..
  unfold ConfigUtils.classIn
  rw [set]
  cases enabled <;> simp [lineUtils]

/-- A line for every write, with the key, `=` and the value. -/
def lineConfiguration : KeyValueConfiguration (List (String × String)) where
  write key value := [key.toList ++ '=' :: ((value.getD "").toList ++ ['\n'])]
  writeSettings settings := settings.map fun (name, value) =>
    name.toList ++ '=' :: (value.toList ++ ['\n'])

/-- The first location has the feature. All writes are taken into the buffer. -/
def twoLocations (close : Option Nat) : SipxsbcConfig Nat Nat (List (String × String)) where
  manager := ⟨fun location => location, fun _ location => location == 1⟩
  getAddress location := if location = 1 then some "10.1.1.5" else some "10.1.1.6"
  getPublicAddress location := if location = 1 then some "47.135.162.72" else none
  utils := lineUtils
  equalsSeparated := lineConfiguration
  settings := [("tcp-port-base", "10000")]
  io _ := ⟨true, fun _ => .taken 0, close⟩

def bothLocations : ConfigRequest Nat := ⟨fun feature => feature == SIPXSBC_FEATURE, {1, 2}⟩

def firstThenSecond : IterationOrder bothLocations.locations := ⟨[1, 2], rfl⟩

/-- When every close is a success nothing is left out. -/
theorem replicate_writes_everything_two_locations :
    ∃ dirs', (twoLocations none).replicate bothLocations firstThenSecond (fun _ _ => none) =
        .ok () dirs' ∧
      (twoLocations none).Replicated bothLocations (fun _ _ => none) dirs' ∧
      ∀ iteration' : IterationOrder bothLocations.locations,
        (twoLocations none).replicate bothLocations iteration' (fun _ _ => none) =
          .ok () dirs' := by
  refine ⟨_, rfl, ?_⟩
  exact (replicate_writes_everything_iff (twoLocations none) (fun _ _ same => same)
    lineUtils_setsClass bothLocations firstThenSecond fun _ _ => none).mpr
    (fun _ => .inr fun _ _ _ _ closed => nomatch closed) rfl _ rfl

/-- The close fails after one line: the replication returns, with a part file that has
the listener address and nothing else. -/
theorem replicate_truncates :
    ∃ dirs', (twoLocations (some 26)).replicate bothLocations firstThenSecond (fun _ _ => none) =
        .ok () dirs' ∧
      dirs' 1 "sipxsbc.ini.part" = some "listener-address=10.1.1.5\n".toList ∧
      ¬ (twoLocations (some 26)).Replicated bothLocations (fun _ _ => none) dirs' := by
  refine ⟨_, rfl, by decide, ?_⟩
  intro replicated
  have part := replicated.part_eq 1 (by decide) rfl
  revert part
  decide

end TwoLocations

end SipxsbcConfig

end SipXsbc
