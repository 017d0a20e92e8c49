import SipXsbc.Config.Replication

/-!
# Replications that throw

`replicate` throws on what `enableCfengineClass`, the opening of a part file or a write
throws, and leaves the locations in three groups: those it has configured, the one it was
at, and those it never came to (`replicate_interrupted`). What the one it was at has
for a part file is the old one or a beginning of the new one.

Over a history of replications, whichever settings they had and wherever they threw, a
part file is therefore never anything but a beginning of the file of its own location
(`part_files_own`).
-/

namespace SipXsbc

open Keyed

variable {Location Dir Settings : Type}

/-- Setting a class works on the data file and leaves the other files of the directory
alone, also when it throws. -/
def ConfigUtils.KeepsToDatfile (utils : ConfigUtils) : Prop :=
  ∀ datfile enabled cls folder,
    (∀ folder', utils.enableCfengineClass datfile enabled cls folder = .ok () folder' →
      ∀ name, name ≠ datfile → folder' name = folder name) ∧
    ∀ exception folder', utils.enableCfengineClass datfile enabled cls folder =
        .error exception folder' →
      ∀ name, name ≠ datfile → folder' name = folder name

namespace SipxsbcConfig

variable (config : SipxsbcConfig Location Dir Settings)

/-- What a location is left with when the loop body throws there. The class is then the one
that was to be set, unless setting it threw: what that leaves of the data file is its own. -/
inductive BrokenOff (location : Location) (folder folder' : Folder) : IOException → Prop
  | enableCfengineClass {exception : IOException} :
    config.utils.enableCfengineClass "sipxsbc.cfdat" (config.enabled location) "sipxsbc" folder =
      .error exception folder' →
    folder' "sipxsbc.ini.part" = folder "sipxsbc.ini.part" →
    BrokenOff location folder folder' exception
  | openFile :
    config.enabled location = true →
    config.utils.classIn folder' "sipxsbc.cfdat" "sipxsbc" = true →
    folder' "sipxsbc.ini.part" = folder "sipxsbc.ini.part" →
    BrokenOff location folder folder' .openFile
  | write {text : List Char} :
    config.enabled location = true →
    config.utils.classIn folder' "sipxsbc.cfdat" "sipxsbc" = true →
    folder' "sipxsbc.ini.part" = some text → text <+: config.partText location →
    BrokenOff location folder folder' .write

/-! ## One location -/

section Location

variable {config} {location : Location} {folder folder' : Folder} {exception : IOException}

/-- What a failing part file leaves: the directory as it was, or a beginning of the
file. -/
theorem writePart_error (threw : config.writePart location folder = .error exception folder') :
    (exception = .openFile ∧ folder' = folder) ∨
      (exception = .write ∧ ∃ text, text <+: config.partText location ∧
        folder' = Function.update folder "sipxsbc.ini.part" (some text)) := by
  unfold writePart at threw
  cases opens : (config.io location).opens with
  | false =>
    rw [opens] at threw
    cases threw
    exact .inl ⟨rfl, rfl⟩
  | true =>
    rw [opens, writeConfig_eq] at threw
    rcases BufferedWriter.writeAll_cases (config.io location).write IOException.write
      (config.partWrites location) .fresh with ⟨wtr, ran, _⟩ | ⟨wtr, failed, _⟩
    · rw [ran] at threw
      cases threw
    · have begun := BufferedWriter.writeAll_error_prefix failed
      rw [failed] at threw
      change EStateM.Result.error IOException.write (Function.update
        (Function.update folder "sipxsbc.ini.part" (some [])) "sipxsbc.ini.part"
        (some (wtr.closed (config.io location).close))) = .error exception folder' at threw
      rw [Function.update_idem] at threw
      cases threw
      exact .inr ⟨rfl, _, (BufferedWriter.closed_prefix _ wtr).trans begun, rfl⟩

theorem writePart_ok (returned : config.writePart location folder = .ok () folder') :
    ∃ text, text <+: config.partText location ∧
      folder' = Function.update folder "sipxsbc.ini.part" (some text) := by
  rcases writePart_cases config location folder with ⟨_, wtr, text, _, wrote⟩ | ⟨_, e, f, threw⟩
  · rw [returned] at wrote
    cases wrote
    refine ⟨_, ?_, rfl⟩
    rw [← text]
    exact BufferedWriter.closed_prefix _ wtr
  · rw [returned] at threw
    cases threw

/-- The class stays as it is when the part file is written. -/
theorem classIn_update_part (utils : ConfigUtils) (folder : Folder) (text : Option (List Char)) :
    utils.classIn (Function.update folder "sipxsbc.ini.part" text) "sipxsbc.cfdat" "sipxsbc" =
      utils.classIn folder "sipxsbc.cfdat" "sipxsbc" := by
  unfold ConfigUtils.classIn
  rw [Function.update_of_ne (by decide)]

theorem brokenOff_of_replicateAt (setsClass : config.utils.SetsClass)
    (keeps : config.utils.KeepsToDatfile)
    (threw : config.replicateAt location folder = .error exception folder') :
    config.BrokenOff location folder folder' exception := by
  unfold replicateAt at threw
  cases first : config.utils.enableCfengineClass "sipxsbc.cfdat" (config.enabled location)
      "sipxsbc" folder with
  | error exception₁ mid =>
    rw [bind_of_error first] at threw
    cases threw
    exact .enableCfengineClass first ((keeps _ _ _ _).2 _ _ first _ (by decide))
  | ok u mid =>
    rw [bind_of_ok first] at threw
    have set := setsClass _ _ _ _ _ first
    have kept := (keeps _ _ _ _).1 _ first "sipxsbc.ini.part" (by decide)
    cases on : config.enabled location with
    | false =>
      rw [on] at threw
      cases threw
    | true =>
      rw [on] at threw set
      rcases writePart_error threw with ⟨rfl, rfl⟩ | ⟨rfl, text, begun, rfl⟩
      · exact .openFile on set kept
      · refine .write on ?_ (Function.update_self ..) begun
        rw [classIn_update_part]
        exact set

/-- However the loop body ends, the part file is the old one or a beginning of the new
one. -/
theorem part_left_replicateAt (keeps : config.utils.KeepsToDatfile) :
    left (config.replicateAt location folder) "sipxsbc.ini.part" = folder "sipxsbc.ini.part" ∨
      config.enabled location = true ∧ ∃ text,
        left (config.replicateAt location folder) "sipxsbc.ini.part" = some text ∧
          text <+: config.partText location := by
  unfold replicateAt
  cases first : config.utils.enableCfengineClass "sipxsbc.cfdat" (config.enabled location)
      "sipxsbc" folder with
  | error exception mid =>
    rw [bind_of_error first]
    exact .inl ((keeps _ _ _ _).2 _ _ first _ (by decide))
  | ok u mid =>
    rw [bind_of_ok first]
    have kept := (keeps _ _ _ _).1 _ first "sipxsbc.ini.part" (by decide)
    cases on : config.enabled location with
    | false => exact .inl kept
    | true =>
      change left (config.writePart location mid) _ = _ ∨ true = true ∧ ∃ text,
        left (config.writePart location mid) _ = _ ∧ _
      cases wrote : config.writePart location mid with
      | ok u folder' =>
        obtain ⟨text, begun, rfl⟩ := writePart_ok wrote
        exact .inr ⟨rfl, text, by simp only [left, Function.update_self], begun⟩
      | error exception folder' =>
        rcases writePart_error wrote with ⟨_, rfl⟩ | ⟨_, text, begun, rfl⟩
        · exact .inl kept
        · exact .inr ⟨rfl, text, by simp only [left, Function.update_self], begun⟩

end Location

/-! ## One replication -/

section Run

variable [DecidableEq Dir] {config} {request : ConfigRequest Location} {dirs dirs' : Dir → Folder}

theorem applies_of_error {iteration : IterationOrder request.locations} {exception : IOException}
    (threw : config.replicate request iteration dirs = .error exception dirs') :
    request.applies SIPXSBC_FEATURE = true ∧
      forM iteration.order (fun location =>
        onCell (config.manager.getLocationDataDirectory location) (config.replicateAt location))
        dirs = .error exception dirs' := by
  unfold replicate at threw
  cases applies : request.applies SIPXSBC_FEATURE with
  | false =>
    rw [applies] at threw
    cases threw
  | true =>
    rw [applies] at threw
    exact ⟨rfl, threw⟩

/-- **A replication that throws configures a beginning of its locations.** The locations
it found before the one it throws at are configured, that one is broken off, and no other
directory is touched. -/
theorem replicate_interrupted (own : Function.Injective config.manager.getLocationDataDirectory)
    (setsClass : config.utils.SetsClass) (keeps : config.utils.KeepsToDatfile)
    {iteration : IterationOrder request.locations} {exception : IOException}
    (threw : config.replicate request iteration dirs = .error exception dirs') :
    ∃ done at_ rest, iteration.order = done ++ at_ :: rest ∧
      (∀ location ∈ done,
        ¬ config.Throws location (dirs (config.manager.getLocationDataDirectory location)) ∧
        config.Configured location (dirs' (config.manager.getLocationDataDirectory location))) ∧
      config.Throws at_ (dirs (config.manager.getLocationDataDirectory at_)) ∧
      config.BrokenOff at_ (dirs (config.manager.getLocationDataDirectory at_))
        (dirs' (config.manager.getLocationDataDirectory at_)) exception ∧
      ∀ location, location ∉ done → location ≠ at_ →
        dirs' (config.manager.getLocationDataDirectory location) =
          dirs (config.manager.getLocationDataDirectory location) := by
  obtain ⟨done, at_, rest, order, stopped⟩ :=
    stopped_of_pass (iteration.nodup.map own) (applies_of_error threw).2
  refine ⟨done, at_, rest, order, ?_, ?_, brokenOff_of_replicateAt setsClass keeps stopped.threw, ?_⟩
  · intro location member
    rcases replicateAt_cases setsClass location
      (dirs (config.manager.getLocationDataDirectory location)) with
      ⟨none, folder', ran, configured⟩ | ⟨_, e, folder', threw'⟩
    · rw [stopped.done_ location member] at ran
      cases ran
      exact ⟨none, configured⟩
    · rw [stopped.done_ location member] at threw'
      cases threw'
  · rcases replicateAt_cases setsClass at_
      (dirs (config.manager.getLocationDataDirectory at_)) with
      ⟨_, folder', ran, _⟩ | ⟨throws, _⟩
    · rw [stopped.threw] at ran
      cases ran
    · exact throws
  · intro location notDone notAt
    apply stopped.elsewhere
    · exact fun same => notAt (own same).symm
    · intro other member same
      rw [own same] at member
      exact notDone member

end Run

/-! ## A second location whose file cannot be written -/

theorem lineUtils_keepsToDatfile : lineUtils.KeepsToDatfile := by
  intro datfile enabled cls folder
  refine ⟨?_, ?_⟩
  · intro folder' returned name other
    cases returned
    exact Function.update_of_ne other ..
  · intro exception folder' threw
    cases threw

/-- Both locations have the feature, and at the second one the third write fails after
five characters. -/
def secondFails : SipxsbcConfig Nat Nat (List (String × String)) :=
  { twoLocations none with
    manager := ⟨fun location => location, fun _ _ => true⟩
    io := fun location =>
      if location = 1 then ⟨true, fun _ => .taken 0, none⟩
      else ⟨true, fun call => if call = 2 then .failed 5 else .taken 0, none⟩ }

/-- The first location is configured, the second one broken off. -/
theorem replicate_interrupted_second :
    ∃ dirs', secondFails.replicate bothLocations firstThenSecond (fun _ _ => none) =
        .error .write dirs' ∧
      ∃ done at_ rest, firstThenSecond.order = done ++ at_ :: rest ∧
        (∀ location ∈ done, ¬ secondFails.Throws location (fun _ => none) ∧
          secondFails.Configured location (dirs' location)) ∧
        secondFails.Throws at_ (fun _ => none) ∧
        secondFails.BrokenOff at_ (fun _ => none) (dirs' at_) .write ∧
        ∀ location, location ∉ done → location ≠ at_ → dirs' location = fun _ => none := by
  obtain ⟨dirs', threw⟩ : ∃ dirs', secondFails.replicate bothLocations firstThenSecond
      (fun _ _ => none) = .error .write dirs' := ⟨_, rfl⟩
  exact ⟨dirs', threw, replicate_interrupted (fun _ _ same => same) lineUtils_setsClass
    lineUtils_keepsToDatfile threw⟩

end SipxsbcConfig

/-! ## Histories of replications -/

/-- One replication: the settings and features of its time, the failures it meets, and
the order in which it finds the locations. -/
structure Replication (Location Dir Settings : Type) where
  config : SipxsbcConfig Location Dir Settings
  request : ConfigRequest Location
  iteration : IterationOrder request.locations

namespace Replication

variable [DecidableEq Dir]

/-- The directories after one replication, whether it returns or throws. -/
def run (r : Replication Location Dir Settings) (dirs : Dir → Folder) : Dir → Folder :=
  left (r.config.replicate r.request r.iteration dirs)

def runAll (history : List (Replication Location Dir Settings)) (dirs : Dir → Folder) :
    Dir → Folder :=
  history.foldl (fun dirs r => r.run dirs) dirs

/-- The part file at a location is a beginning of the one the replication is to write
there. -/
def BeginsPart (r : Replication Location Dir Settings) (location : Location)
    (part : Option (List Char)) : Prop :=
  location ∈ r.request.locations ∧ r.config.enabled location = true ∧
    ∃ text, part = some text ∧ text <+: r.config.partText location

theorem run_of_applies (r : Replication Location Dir Settings)
    (applies : r.request.applies SIPXSBC_FEATURE = true) (dirs : Dir → Folder) :
    r.run dirs = left (forM r.iteration.order (fun location =>
      onCell (r.config.manager.getLocationDataDirectory location) (r.config.replicateAt location))
      dirs) := by
  unfold run SipxsbcConfig.replicate
  rw [applies]
  rfl

theorem run_part (r : Replication Location Dir Settings)
    (own : Function.Injective r.config.manager.getLocationDataDirectory)
    (keeps : r.config.utils.KeepsToDatfile) (dirs : Dir → Folder) (location : Location) :
    let part := r.run dirs (r.config.manager.getLocationDataDirectory location) "sipxsbc.ini.part"
    part = dirs (r.config.manager.getLocationDataDirectory location) "sipxsbc.ini.part" ∨
      r.BeginsPart location part := by
  cases applies : r.request.applies SIPXSBC_FEATURE with
  | false =>
    have same : r.run dirs = dirs := by
      unfold run SipxsbcConfig.replicate
      rw [applies]
      rfl
    exact .inl (congrFun (congrFun same _) _)
  | true =>
    rw [r.run_of_applies applies]
    have reached := @left_pass _ _ _ _ _ r.config.replicateAt _ dirs _ (r.iteration.nodup.map own)
      (r.config.manager.getLocationDataDirectory location)
    rcases reached with same | ⟨other, member, same, ran⟩
    · exact .inl (congrFun same _)
    · obtain rfl := own same
      rw [ran]
      rcases SipxsbcConfig.part_left_replicateAt keeps with kept | ⟨on, text, part, begun⟩
      · exact .inl kept
      · exact .inr ⟨(r.iteration.mem_iff _).mp member, on, text, part, begun⟩

/-- **Part files are never mixed up.** After any history of replications, with whatever
settings and features and wherever they threw, the part file of a location is the one there
was before the first, or a beginning of the one that some replication was to write for this
very location. -/
theorem part_files_own {directory : Location → Dir} (own : Function.Injective directory)
    (history : List (Replication Location Dir Settings))
    (there : ∀ r ∈ history, r.config.manager.getLocationDataDirectory = directory)
    (keeps : ∀ r ∈ history, r.config.utils.KeepsToDatfile) (dirs : Dir → Folder)
    (location : Location) :
    runAll history dirs (directory location) "sipxsbc.ini.part" =
        dirs (directory location) "sipxsbc.ini.part" ∨
      ∃ r ∈ history,
        r.BeginsPart location (runAll history dirs (directory location) "sipxsbc.ini.part") := by
  induction history generalizing dirs with
  | nil => exact .inl rfl
  | cons r history ih =>
    have here := there r List.mem_cons_self
    have later := ih (fun r' member => there r' (List.mem_cons_of_mem r member))
      (fun r' member => keeps r' (List.mem_cons_of_mem r member)) (r.run dirs)
    have first := r.run_part (by rw [here]; exact own) (keeps r List.mem_cons_self) dirs location
    rw [here] at first
    rcases later with same | ⟨r', member, begins⟩
    · rcases first with kept | begins
      · exact .inl (same.trans kept)
      · refine .inr ⟨r, List.mem_cons_self, ?_⟩
        rw [← same] at begins
        exact begins
    · exact .inr ⟨r', List.mem_cons_of_mem r member, begins⟩

/-- The first of two replications throws at the second location, and the second one finds
the feature off there. -/
theorem part_files_own_memory :
    let history : List (Replication Nat Nat (List (String × String))) :=
      [⟨SipxsbcConfig.secondFails, SipxsbcConfig.bothLocations, SipxsbcConfig.firstThenSecond⟩,
        ⟨SipxsbcConfig.twoLocations none, SipxsbcConfig.bothLocations,
          SipxsbcConfig.firstThenSecond⟩]
    let part := runAll history (fun _ _ => none) 2 "sipxsbc.ini.part"
    part = none ∨ ∃ r ∈ history, r.BeginsPart 2 part := by
  refine part_files_own (fun _ _ same => same) _ ?_ ?_
    (fun _ _ => none) 2
  · intro r member
    simp only [List.mem_cons, List.not_mem_nil, or_false] at member
    rcases member with rfl | rfl <;> rfl
  · intro r member
    simp only [List.mem_cons, List.not_mem_nil, or_false] at member
    rcases member with rfl | rfl <;> exact SipxsbcConfig.lineUtils_keepsToDatfile

end Replication

end SipXsbc
