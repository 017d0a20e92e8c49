import SipXsbc.Store.Linearizability
import SipXsbc.Keyed.Workspaces

/-!
# Dialogs and registrations on one server

An `SBCDataStore` has two clients of one Redis server, and selects a workspace
for each. Workers that mix operations on dialogs and on registrations have
linearization points in one map of both, and what else is on the server stays.
-/

namespace SipXsbc

open Keyed

namespace SBCDataStore

/-- The workspaces of the two clients. -/
inductive Workspace
  | dialogs
  | registry
  deriving DecidableEq

namespace Workspace

/-- The number that a client connects with: `DIALOG_WORKSPACE` and `REGISTRY_WORKSPACE`. -/
def number : Workspace → Int
  | dialogs => 11
  | registry => 12

theorem number_injective : Function.Injective number := by
  intro i j same
  cases i <;> cases j <;> first | rfl | cases same

def Op : Workspace → Type
  | dialogs => DialogOp
  | registry => RegOp

def Answer : Workspace → Type
  | dialogs => DialogAnswer
  | registry => RegAnswer

def Record : Workspace → Type
  | dialogs => DialogData
  | registry => RegData

end Workspace

/-- An operation on dialogs or on registrations. -/
abbrev StoreOp := Σ i : Workspace, i.Op

abbrev StoreAnswer := Σ i : Workspace, i.Answer

abbrev StoreRecord := Σ i : Workspace, i.Record

section Parts

variable {W J : Type} (keyMatches : String → String → Bool) (dialogForm : JsonForm DialogData J)
  (regForm : JsonForm RegData J)

/-- The operations and records of each part. -/
def parts : ∀ i : Workspace, Keyed.Part String J (Option String) i.Op i.Answer i.Record
  | .dialogs =>
      { code := DialogOp.code dialogForm
        encode := dialogForm.toJsonObject
        key := DialogData.sessionId
        spec := dialogSpec
        expands := DialogOp.Expands
        stage := DialogStage dialogForm }
  | .registry =>
      { code := RegOp.code regForm
        encode := regForm.toJsonObject
        key := RegData.key
        spec := registrySpec keyMatches
        expands := RegOp.Expands
        stage := RegStage regForm }

/-- The two records of one key. -/
def records (dialogs : String → Option DialogData) (registry : String → Option RegData) :
    ∀ i : Workspace, String → Option i.Record
  | .dialogs => dialogs
  | .registry => registry

/-- The dialogs among the records. -/
def dialogsOf (m : Workspace × String → Option StoreRecord) : String → Option DialogData :=
  view Workspace.dialogs m

/-- The registrations among the records. -/
def registryOf (m : Workspace × String → Option StoreRecord) : String → Option RegData :=
  view Workspace.registry m

variable {keyMatches dialogForm regForm} {S : RedisClient W J}

theorem parts_acts (laws : S.Lawful (selects keyMatches)) (dialogTrips : dialogForm.RoundTrips)
    (regTrips : regForm.RoundTrips) (i : Workspace) :
    let part := parts keyMatches dialogForm regForm i
    Pool.Acts S part.code part.encode part.key part.spec part.expands part.stage := by
  cases i with
  | dialogs => exact dialog_acts laws dialogTrips
  | registry => exact reg_acts laws regTrips

end Parts

end SBCDataStore

open SBCDataStore

/-- **The data store is one map of dialogs and registrations.** However the commands of any
operations interleave, also of those on different parts, they have linearization points; each
workspace is left with the records of its part, and no other workspace of the server changes. -/
theorem data_store_linearization {W J : Type} {S : RedisClient W J}
    {keyMatches : String → String → Bool} {dialogForm : JsonForm DialogData J}
    {regForm : JsonForm RegData J} (laws : S.Lawful (selects keyMatches))
    (dialogTrips : dialogForm.RoundTrips) (regTrips : regForm.RoundTrips) {s : Int → W}
    {md : String → Option DialogData} {mr : String → Option RegData}
    (dialogs : DialogsHold S dialogForm (s Workspace.dialogs.number) md)
    (registry : RegistryHolds S regForm (s Workspace.registry.number) mr)
    (scripts : List (List StoreOp)) (schedule : List (Choice (Workspace × String))) :
    let all := parts keyMatches dialogForm regForm
    let server := S.onServer Workspace.number
    let c : Pool _ _ _ _ _ StoreAnswer := Pool.start s scripts
    let s' := (c.run server (Parts.code all) schedule).store
    ∃ es m, Explains (Parts.spec all) (Parts.Expands all) (together (records md mr))
        (c.history server (Parts.code all) schedule) es m ∧
      DialogsHold S dialogForm (s' Workspace.dialogs.number) (dialogsOf m) ∧
      RegistryHolds S regForm (s' Workspace.registry.number) (registryOf m) ∧
      ∀ n, (∀ i : Workspace, n ≠ i.number) → s' n = s n := by
  intro all server c s'
  have holds : Represents server (Parts.encode all) (Parts.key all) s
      (together (records md mr)) := by
    apply Parts.represents_together
    intro i
    cases i with
    | dialogs => exact dialogs
    | registry => exact registry
  obtain ⟨es, m, explains, held⟩ :=
    (Pool.Acts.of_parts Workspace.number_injective (parts_acts laws dialogTrips regTrips)).explains
      (laws.onServer Workspace.number_injective) holds scripts schedule
  refine ⟨es, m, explains, ?_, ?_, ?_⟩
  · exact Parts.represents_view held .dialogs
  · exact Parts.represents_view held .registry
  · intro n elsewhere
    exact Pool.run_elsewhere elsewhere s scripts schedule

/-- A bulk removal of dialogs runs against a registration under the same key. -/
theorem data_store_linearization_memory :
    let all := parts prefixMatches dialogJson regJson
    let server := memoryRedis.onServer Workspace.number
    let scripts : List (List StoreOp) :=
      [[⟨.dialogs, .persist ⟨"k", ⟨"c"⟩, [], 60⟩⟩, ⟨.dialogs, .removeAllDialogs "c"⟩],
        [⟨.registry, .persistReg ⟨"k", "sip:a@d", "sip:a@h", 60⟩⟩,
          ⟨.registry, .getOneReg "k" default⟩]]
    let schedule : List (Choice (Workspace × String)) :=
      [.work 0, .work 1, .work 0, .work 0, .work 0, .work 1, .work 0, .work 1, .work 0, .work 1,
        .expire (.dialogs, "k"), .work 1, .work 1]
    let c : Pool _ _ _ _ _ StoreAnswer := Pool.start (fun _ => ∅) scripts
    let s' := (c.run server (Parts.code all) schedule).store
    ∃ es m, Explains (Parts.spec all) (Parts.Expands all)
        (together (records (fun _ => none) fun _ => none))
        (c.history server (Parts.code all) schedule) es m ∧
      DialogsHold memoryRedis dialogJson (s' Workspace.dialogs.number) (dialogsOf m) ∧
      RegistryHolds memoryRedis regJson (s' Workspace.registry.number) (registryOf m) ∧
      ∀ n, (∀ i : Workspace, n ≠ i.number) → s' n = ∅ :=
  data_store_linearization memoryRedis_lawful dialogJson_roundTrips regJson_roundTrips
    (.of_empty memoryRedis_empty) (.of_empty memoryRedis_empty) _ _

end SipXsbc
