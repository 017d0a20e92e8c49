import SipXsbc.Keyed.Records

/-!
# The data store of the controller

`SBCDataStore` keeps dialogs and registrations as JSON objects in two Redis
workspaces. Its operations are programs of Redis commands on one workspace:
`persist`, `getAll`, `removeSession` and `removeAllDialogs` on the dialogs, the
others on the registry. Redis and the JSON forms of the two records are outside
the repository; they are parameters here.
-/

namespace SipXsbc

open Keyed

/-- A registration, with the fields the store reads. -/
structure RegData where
  key : String
  aor : String
  contact : String
  expires : Int
  deriving DecidableEq, Inhabited

structure DialogLeg where
  callId : String
  deriving DecidableEq, Inhabited

/-- A dialog, with the fields the store reads and the legs it never looks at. -/
structure DialogData where
  sessionId : String
  leg1 : DialogLeg
  otherLegs : List DialogLeg
  expires : Int
  deriving DecidableEq, Inhabited

abbrev RegList := List RegData

abbrev DialogList := List DialogData

/-- The JSON form of a record. Decoding fills in a record that is there. -/
structure JsonForm (R J : Type) where
  toJsonObject : R → J
  fromJsonObject : R → J → R

/-- Decoding undoes encoding, whatever record it fills in. -/
def JsonForm.RoundTrips {R J : Type} (form : JsonForm R J) : Prop :=
  ∀ r₀ r, form.fromJsonObject r₀ (form.toJsonObject r) = r

/-- A Redis connection on one workspace. `getAll` comes with or without a key
pattern. -/
abbrev RedisClient (W J : Type) := Client W String J (Option String)

/-- A program of Redis commands. -/
abbrev Redis (J α : Type) := Prog String J (Option String) α

/-- The keys a `getAll` reads: those that match the pattern, if it has one. -/
def selects (keyMatches : String → String → Bool) : Option String → String → Bool
  | none, _ => true
  | some pattern, k => keyMatches pattern k

namespace Redis

variable {J : Type}

def set (key : String) (data : J) (expires : Int) : Redis J Bool :=
  Prog.set key data expires .ret

def get (key : String) : Redis J (Option J) := Prog.get key .ret

def del (key : String) : Redis J Unit := Prog.del key (.ret ())

def getAll (pattern : Option String) : Redis J (List J) := Prog.query pattern .ret

end Redis

namespace SBCDataStore

variable {J : Type}

/-- The reading loop of the bulk reads: decode each value into a fresh record
and push it back. -/
def pushDecoded {R : Type} [Inhabited R] (form : JsonForm R J) (records : List R)
    (values : List J) : List R :=
  values.foldl (fun records value => records ++ [form.fromJsonObject default value]) records

theorem pushDecoded_eq {R : Type} [Inhabited R] (form : JsonForm R J) (records : List R)
    (values : List J) :
    pushDecoded form records values = records ++ values.map (form.fromJsonObject default) := by
  induction values generalizing records with
  | nil => rw [List.map_nil, List.append_nil]; rfl
  | cons value values ih =>
      rw [List.map_cons, List.append_cons]
      exact ih (records ++ [form.fromJsonObject default value])

/-- What was encoded comes back, after the records that are there. -/
theorem pushDecoded_encoded {R : Type} [Inhabited R] {form : JsonForm R J}
    (roundTrips : form.RoundTrips) (records rs : List R) :
    pushDecoded form records (rs.map form.toJsonObject) = records ++ rs := by
  rw [pushDecoded_eq, List.map_map]
  congr 1
  exact (List.map_congr_left fun r _ => roundTrips default r).trans (List.map_id rs)

section Dialogs

variable (form : JsonForm DialogData J)

def persist (dialogData : DialogData) : Redis J Bool := do
  let data := form.toJsonObject dialogData
  Redis.set dialogData.sessionId data dialogData.expires

def getAll (dialogs : DialogList) : Redis J DialogList := do
  let values ← Redis.getAll none
  return pushDecoded form dialogs values

def removeSession (sessionId : String) : Redis J Unit :=
  Redis.del sessionId

def removeAllDialogs (callId : String) : Redis J Unit := do
  let dialogs ← getAll form []
  let deleteThese := dialogs.foldl
    (fun deleteThese dialog =>
      if dialog.leg1.callId == callId then deleteThese ++ [dialog.sessionId] else deleteThese) []
  Prog.delEach deleteThese

end Dialogs

section Registry

variable (form : JsonForm RegData J)

/-- The check of `persistReg`: a record without key, AOR or contact. -/
def incomplete (regData : RegData) : Bool :=
  regData.key.isEmpty || regData.aor.isEmpty || regData.contact.isEmpty

def persistReg (regData : RegData) : Redis J Bool := do
  if incomplete regData then
    return false
  let data := form.toJsonObject regData
  -- the answer of the write is dropped
  let _ ← Redis.set regData.key data regData.expires
  return true

def getOneReg (regId : String) (regData : RegData) : Redis J (Bool × RegData) := do
  match ← Redis.get regId with
  | none => return (false, regData)
  | some data => return (true, form.fromJsonObject regData data)

def getReg (regIdPrefix : String) (regData : RegList) : Redis J (Bool × RegList) := do
  let values ← Redis.getAll (some regIdPrefix)
  let regData := pushDecoded form regData values
  return (!regData.isEmpty, regData)

def removeReg (regId : String) : Redis J Unit :=
  Redis.del regId

def removeAllReg (regIdPrefix : String) : Redis J Unit := do
  let (_, regs) ← getReg form regIdPrefix []
  let deleteThese := regs.foldl (fun deleteThese reg => deleteThese ++ [reg.key]) []
  Prog.delEach deleteThese

def getAllReg (regs : RegList) : Redis J RegList := do
  let values ← Redis.getAll none
  return pushDecoded form regs values

end Registry

/-! ## The bulk removals as query and deletions -/

theorem foldl_push_if {R : Type} (drop : R → Bool) (key : R → String) (rs : List R)
    (ks : List String) :
    rs.foldl (fun ks r => if drop r then ks ++ [key r] else ks) ks =
      ks ++ (rs.filter drop).map key := by
  induction rs generalizing ks with
  | nil => exact (List.append_nil ks).symm
  | cons r rs ih =>
      rw [List.foldl_cons, ih]
      cases dropped : drop r <;> simp [dropped]

theorem removeAllDialogs_eq (form : JsonForm DialogData J) (callId : String) :
    removeAllDialogs form callId = .query none fun values =>
      Prog.delEach (((pushDecoded form [] values).filter (·.leg1.callId == callId)).map
        DialogData.sessionId) := by
  simp only [removeAllDialogs, getAll, Redis.getAll, foldl_push_if]
  rfl

theorem removeAllReg_eq (form : JsonForm RegData J) (regIdPrefix : String) :
    removeAllReg form regIdPrefix = .query (some regIdPrefix) fun values =>
      Prog.delEach (((pushDecoded form [] values).filter fun _ => true).map RegData.key) := by
  have push : ∀ regs : RegList, regs.foldl (fun deleteThese reg => deleteThese ++ [reg.key]) [] =
      (regs.filter fun _ => true).map RegData.key :=
    fun regs => foldl_push_if (fun _ => true) RegData.key regs []
  simp only [removeAllReg, getReg, Redis.getAll, push]
  rfl

/-- A refused registration issues no command. -/
theorem persistReg_incomplete (form : JsonForm RegData J) {regData : RegData}
    (refused : incomplete regData = true) : persistReg form regData = .ret false := by
  simp only [persistReg, refused]
  rfl

/-- An accepted registration is one write whose answer is dropped. -/
theorem persistReg_complete (form : JsonForm RegData J) {regData : RegData}
    (complete : incomplete regData = false) :
    persistReg form regData =
      Prog.set regData.key (form.toJsonObject regData) regData.expires fun _ => .ret true := by
  simp only [persistReg, complete]
  rfl

/-! ## Each operation in one environment -/

section Perform

variable {W : Type} (S : RedisClient W J) (ms : List (Moment String)) (w : W)

/-- The workspace at the first command of an operation. -/
def atFirst : W := S.expireAll w (ms.headD .quiet).expired

theorem perform_persist (form : JsonForm DialogData J) (dialogData : DialogData) :
    (persist form dialogData).perform S ms w =
      if (ms.headD .quiet).accepts then
        (true, S.expireAll (S.set (atFirst S ms w) dialogData.sessionId
          (form.toJsonObject dialogData) dialogData.expires) (expiries ms.tail))
      else (false, S.expireAll (atFirst S ms w) (expiries ms.tail)) := by
  simp only [persist, Redis.set, Prog.perform, Prog.exec, atFirst]
  split <;> rfl

theorem perform_getAll (form : JsonForm DialogData J) (dialogs : DialogList) :
    (getAll form dialogs).perform S ms w =
      (pushDecoded form dialogs (S.query (atFirst S ms w) none),
        S.expireAll (atFirst S ms w) (expiries ms.tail)) := rfl

theorem perform_removeSession (sessionId : String) :
    (removeSession sessionId : Redis J Unit).perform S ms w =
      ((), S.expireAll (S.del (atFirst S ms w) sessionId) (expiries ms.tail)) := rfl

theorem perform_persistReg_incomplete (form : JsonForm RegData J) {regData : RegData}
    (refused : incomplete regData = true) :
    (persistReg form regData).perform S ms w = (false, S.expireAll w (expiries ms)) := by
  rw [persistReg_incomplete form refused]
  rfl

theorem perform_persistReg (form : JsonForm RegData J) {regData : RegData}
    (complete : incomplete regData = false) :
    (persistReg form regData).perform S ms w =
      (true, S.expireAll
        (if (ms.headD .quiet).accepts then
          S.set (atFirst S ms w) regData.key (form.toJsonObject regData) regData.expires
        else atFirst S ms w) (expiries ms.tail)) := by
  rw [persistReg_complete form complete]
  simp only [Prog.perform, Prog.exec, atFirst]
  split <;> rfl

theorem perform_getOneReg (form : JsonForm RegData J) (regId : String) (regData : RegData) :
    (getOneReg form regId regData).perform S ms w =
      (match S.get (atFirst S ms w) regId with
        | none => (false, regData)
        | some data => (true, form.fromJsonObject regData data),
        S.expireAll (atFirst S ms w) (expiries ms.tail)) := by
  simp only [getOneReg, Redis.get, Prog.bind_eq, Prog.bind, Prog.perform, Prog.exec, atFirst]
  split <;> rfl

theorem perform_getReg (form : JsonForm RegData J) (regIdPrefix : String) (regData : RegList) :
    (getReg form regIdPrefix regData).perform S ms w =
      ((!(pushDecoded form regData (S.query (atFirst S ms w) (some regIdPrefix))).isEmpty,
        pushDecoded form regData (S.query (atFirst S ms w) (some regIdPrefix))),
        S.expireAll (atFirst S ms w) (expiries ms.tail)) := rfl

theorem perform_removeReg (regId : String) :
    (removeReg regId : Redis J Unit).perform S ms w =
      ((), S.expireAll (S.del (atFirst S ms w) regId) (expiries ms.tail)) := rfl

theorem perform_getAllReg (form : JsonForm RegData J) (regs : RegList) :
    (getAllReg form regs).perform S ms w =
      (pushDecoded form regs (S.query (atFirst S ms w) none),
        S.expireAll (atFirst S ms w) (expiries ms.tail)) := rfl

end Perform

end SBCDataStore

end SipXsbc
